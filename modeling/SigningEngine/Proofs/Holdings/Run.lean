import SigningEngine.Proofs.Holdings.Owner

/-!
# What a process holds over one engine

A process creates contexts on an engine and asks them for values. In its contexts it creates owners
of digests, uses them and drops them, in any order. Meanwhile anything may happen elsewhere. Each of
these is a step, and what a step did is a transition. A transition that ends the process is the last
one.

An object is known by its place in the order of creation, so a place stands for one object for ever.
The main statement is `take_can`, which says once all that a transition can be. From it,
`run_history` carries what each transition preserves through a whole run.
-/

namespace SigningEngine

namespace Context

variable {σ κ : Type} (boundary : Boundary σ κ)

/-- What a context may be asked. -/
inductive Question where
  | version
  | installPath
  | approvedMode
  deriving DecidableEq, Repr

/-- Asks a context, and gives it with what it keeps from then on. -/
def answer (context : Context) : Question → Native σ (Except Failure Unit × Context)
  | .version => do
    let (outcome, context) ← context.readVersion boundary
    return (outcome.map fun _ => (), context)
  | .installPath => do
    let (outcome, context) ← context.readInstallPath boundary
    return (outcome.map fun _ => (), context)
  | .approvedMode => do
    let outcome ← (context.fipsApprovedMode boundary).outcome
    return (outcome.map fun _ => (), context)

theorem fetchOnce_state (cell : Option String) (fetch : Attempt σ String) (run : Run σ) :
    (fetchOnce cell fetch run).2.state =
      if cell.isSome then run.state else (fetch.outcome run).2.state := by
  cases cell with
  | some value => rfl
  | none =>
      simp only [fetchOnce, stateM_bind]
      cases (fetch.outcome run).1 <;> rfl

theorem fetchValue_state (context : Context) (value : EngineValue) (run : Run σ) :
    ((context.fetchValue boundary value).outcome run).2.state =
      boundary.behind (.scalarValue context.handle value) run.state := by
  have hasked := Attempt.outcome_orError (.query value)
    (Attempt.outcome_request boundary (.scalarValue context.handle value)
      (run.logged [.valueRequested value context.handle]))
  rw [fetchValue, Attempt.outcome_bind, Attempt.outcome_log]
  exact congrArg (·.2.state) hasked

theorem fipsApprovedMode_state (context : Context) (run : Run σ) :
    ((context.fipsApprovedMode boundary).outcome run).2.state =
      boundary.behind (.scalarValue context.handle .fipsApprovedMode) run.state := by
  have hasked := Attempt.outcome_orError (.query .fipsApprovedMode)
    (Attempt.outcome_request boundary (.scalarValue context.handle .fipsApprovedMode) run)
  rw [fipsApprovedMode, Attempt.outcome_bind, hasked]
  split
  next report next hreport =>
    rw [← Boundary.asked_state, ← (Prod.mk.inj hreport).2]
    simp only
    split <;> rfl
  next failure next hfailure =>
    rw [← Boundary.asked_state, ← (Prod.mk.inj hfailure).2]

/-- A context is asked through its handle. -/
theorem answer_calls (context : Context) (question : Question) (state : σ) :
    let ran := context.answer boundary.observed question { state := (state, []) }
    ran.1.2.handle = context.handle ∧
      ∀ call ∈ Crossing.calls ran.2.state.2, ∃ value, call = .scalarValue context.handle value := by
  cases question with
  | version =>
      refine ⟨rfl, ?_⟩
      simp only [answer, readVersion, stateM_bind, stateM_pure, fetchOnce_state, fetchValue_state]
      split <;> simp
  | installPath =>
      refine ⟨rfl, ?_⟩
      simp only [answer, readInstallPath, stateM_bind, stateM_pure, fetchOnce_state,
        fetchValue_state]
      split <;> simp
  | approvedMode =>
      refine ⟨rfl, ?_⟩
      simp only [answer, stateM_bind, stateM_pure, fipsApprovedMode_state]
      simp

end Context

/-- An owner of a digest, and the place of the context in which it was created. -/
structure Held (κ : Type) where
  context : ℕ
  owner : Owner κ
  deriving DecidableEq, Repr

/-- What a process holds over one engine. The place of an owner is empty if it could not be created,
and once it is dropped. -/
structure Holdings (κ : Type) where
  contexts : List Context := []
  owners : List (Option (Held κ)) := []
  deriving DecidableEq, Repr

namespace Holdings

variable {σ κ : Type}

/-- The owner at a place. -/
def owner? (holdings : Holdings κ) (place : ℕ) : Option (Held κ) := holdings.owners[place]?.join

/-- What is held once something else is at the place of an owner. -/
def put (holdings : Holdings κ) (place : ℕ) (held? : Option (Held κ)) : Holdings κ :=
  { holdings with owners := holdings.owners.set place held? }

/-- What is held with one more context. -/
def withContext (holdings : Holdings κ) (context : Context) : Holdings κ :=
  { holdings with contexts := holdings.contexts ++ [context] }

/-- What is held with one more place for an owner. -/
def withOwner (holdings : Holdings κ) (held? : Option (Held κ)) : Holdings κ :=
  { holdings with owners := holdings.owners ++ [held?] }

/-- The owners that are alive. -/
def live (holdings : Holdings κ) : List (Held κ) := holdings.owners.filterMap id

section Places

variable {holdings : Holdings κ} {place : ℕ} {held : Held κ} (held? : Option (Held κ))

theorem owner?_eq_some :
    holdings.owner? place = some held ↔ holdings.owners[place]? = some (some held) := by
  simp [owner?, Option.join_eq_some_iff]

@[simp] theorem length_owners_put :
    (holdings.put place held?).owners.length = holdings.owners.length := List.length_set

theorem owner?_lt (h : holdings.owner? place = some held) : place < holdings.owners.length := by
  obtain ⟨hlt, -⟩ := List.getElem?_eq_some_iff.mp (owner?_eq_some.mp h)
  exact hlt

theorem owner?_put_self (h : holdings.owner? place = some held) :
    (holdings.put place held?).owner? place = held? := by
  simp [owner?, put, owner?_lt h]

theorem owner?_put_of_ne {other : ℕ} (h : other ≠ place) :
    (holdings.put place held?).owner? other = holdings.owner? other := by
  simp [owner?, put, List.getElem?_set_ne h.symm]

@[simp] theorem owner?_withOwner_length :
    (holdings.withOwner held?).owner? holdings.owners.length = held? := by
  simp [owner?, withOwner]

theorem owner?_withOwner_of_ne (h : place ≠ holdings.owners.length) :
    (holdings.withOwner held?).owner? place = holdings.owner? place := by
  rcases Nat.lt_or_gt_of_ne h with hlt | hgt
  · simp [owner?, withOwner, List.getElem?_append_left hlt]
  · have hbefore : holdings.owners[place]? = none := List.getElem?_eq_none (Nat.le_of_lt hgt)
    have hafter : (holdings.owners ++ [held?])[place]? = none :=
      List.getElem?_eq_none (by simp; omega)
    rw [owner?, owner?, withOwner, hbefore, hafter]

/-- What is kept at its place changes nothing. -/
theorem put_self (h : holdings.owner? place = some held) :
    holdings.put place (some held) = holdings := by
  obtain ⟨hlt, hheld⟩ := List.getElem?_eq_some_iff.mp (owner?_eq_some.mp h)
  rw [put, ← hheld, List.set_getElem_self]

end Places

/-- What a process does with what it holds. -/
inductive Action (κ : Type) where
  | createContext (fips : Bool) (config : ContextConfig)
  | ask (context : ℕ) (question : Context.Question)
  | create (context : ℕ) (kind : Owner.Kind) (algorithm : String)
  | use (place : ℕ) (use : Owner.Use κ)
  | drop (place : ℕ)

/-- Carries out an action. One that names what is not there does nothing. -/
def perform (boundary : Boundary σ κ) (holdings : Holdings κ) :
    Action κ → Native σ (Except Failure Unit × Holdings κ)
  | .createContext fips config => do
    match ← (Context.create boundary fips config).outcome with
    | .ok context => return (.ok (), holdings.withContext context)
    | .error failure => return (.error failure, holdings)
  | .ask place question =>
    match holdings.contexts[place]? with
    | none => return (.ok (), holdings)
    | some context => do
      let (outcome, context) ← context.answer boundary question
      return (outcome, { holdings with contexts := holdings.contexts.set place context })
  | .create place kind algorithm =>
    match holdings.contexts[place]? with
    | none => return (.ok (), holdings)
    | some context => do
      match ← (Owner.create boundary context.handle algorithm kind).outcome with
      | .ok owner => return (.ok (), holdings.withOwner (some { context := place, owner }))
      | .error failure => return (.error failure, holdings.withOwner none)
  | .use place use =>
    match holdings.owner? place with
    | none => return (.ok (), holdings)
    | some held => do
      let (outcome, owner) ← held.owner.used boundary use
      return (outcome, holdings.put place (some { held with owner }))
  | .drop place =>
    match holdings.owner? place with
    | none => return (.ok (), holdings)
    | some held => do
      let outcome ← (held.owner.drop boundary).outcome
      return (outcome, holdings.put place none)

/-- What may happen next: the process does something, or something happens elsewhere. -/
inductive Step (σ κ : Type) where
  | act (action : Action κ)
  | elsewhere (change : σ → σ)

/-- What a step did. -/
structure Transition (σ κ : Type) where
  before : Holdings κ
  state : σ
  step : Step σ κ
  outcome : Except Failure Unit
  crossings : List (Crossing κ)
  events : List Event
  after : Holdings κ
  next : σ

namespace Transition

def calls (transition : Transition σ κ) : List NativeCall := Crossing.calls transition.crossings

theorem calls_of_asked {transition : Transition σ κ} {call : NativeCall}
    {reply : Except String call.Reply} (h : transition.crossings = [.asked call reply]) :
    transition.calls = [call] := by
  rw [calls, h]
  rfl

/-- Whether the process ended in the transition. -/
def aborts (transition : Transition σ κ) : Bool :=
  match transition.outcome with
  | .error .abort => true
  | _ => false

/-- The place of the owner that a transition is about. Creation is about the next place. -/
def place? (transition : Transition σ κ) : Option ℕ :=
  match transition.step with
  | .act (.create _ _ _) => some transition.before.owners.length
  | .act (.use place _) => some place
  | .act (.drop place) => some place
  | _ => none

/-- The place of the context that a transition goes through. -/
def context? (transition : Transition σ κ) : Option ℕ :=
  match transition.step with
  | .act (.createContext _ _) => some transition.before.contexts.length
  | .act (.ask context _) => some context
  | .act (.create context _ _) => some context
  | .act (.use place _) => (transition.before.owner? place).map (·.context)
  | .act (.drop place) => (transition.before.owner? place).map (·.context)
  | .elsewhere _ => none

end Transition

variable (boundary : Boundary σ κ)

/-- The transition of one step. -/
def take (holdings : Holdings κ) (step : Step σ κ) (state : σ) : Transition σ κ :=
  match step with
  | .act action =>
    let ((outcome, after), run) := holdings.perform boundary.observed action { state := (state, []) }
    { before := holdings, state, step := .act action, outcome, crossings := run.state.2,
      events := run.events.toList, after, next := run.state.1 }
  | .elsewhere change =>
    { before := holdings, state, step := .elsewhere change, outcome := .ok (), crossings := [],
      events := [], after := holdings, next := change state }

/-- Takes steps one after the other, as long as the process does not end. -/
def run (holdings : Holdings κ) : List (Step σ κ) → σ → List (Transition σ κ)
  | [], _ => []
  | step :: rest, state =>
    let first := holdings.take boundary step state
    if first.aborts then [first] else first :: run first.after rest first.next

/-! ### What a transition can be -/

/-- A step at which nothing happens. -/
def Transition.idle (holdings : Holdings κ) (step : Step σ κ) (state : σ) : Transition σ κ :=
  { before := holdings, state, step, outcome := .ok (), crossings := [], events := [],
    after := holdings, next := state }

section Take

variable {holdings : Holdings κ} {place : ℕ} (state : σ)

theorem take_ask_of_none (h : holdings.contexts[place]? = none) (question : Context.Question) :
    holdings.take boundary (.act (.ask place question)) state =
      .idle holdings (.act (.ask place question)) state := by
  simp only [take, perform, h]
  rfl

theorem take_create_of_none (h : holdings.contexts[place]? = none) (kind : Owner.Kind)
    (algorithm : String) :
    holdings.take boundary (.act (.create place kind algorithm)) state =
      .idle holdings (.act (.create place kind algorithm)) state := by
  simp only [take, perform, h]
  rfl

theorem take_use_of_none (h : holdings.owner? place = none) (use : Owner.Use κ) :
    holdings.take boundary (.act (.use place use)) state =
      .idle holdings (.act (.use place use)) state := by
  simp only [take, perform, h]
  rfl

theorem take_drop_of_none (h : holdings.owner? place = none) :
    holdings.take boundary (.act (.drop place)) state =
      .idle holdings (.act (.drop place)) state := by
  simp only [take, perform, h]
  rfl

theorem take_createContext (holdings : Holdings κ) (fips : Bool) (config : ContextConfig) :
    holdings.take boundary (.act (.createContext fips config)) state =
      let ran := (Context.create boundary.observed fips config).outcome { state := (state, []) }
      { before := holdings, state, step := .act (.createContext fips config)
        outcome := ran.1.map fun _ => (), crossings := ran.2.state.2
        events := ran.2.events.toList
        after := ran.1.toOption.elim holdings holdings.withContext
        next := ran.2.state.1 } := by
  simp only [take, perform, stateM_bind]
  cases ((Context.create boundary.observed fips config).outcome { state := (state, []) }).1 <;> rfl

theorem take_ask {context : Context} (h : holdings.contexts[place]? = some context)
    (question : Context.Question) :
    holdings.take boundary (.act (.ask place question)) state =
      let ran := context.answer boundary.observed question { state := (state, []) }
      { before := holdings, state, step := .act (.ask place question), outcome := ran.1.1
        crossings := ran.2.state.2, events := ran.2.events.toList
        after := { holdings with contexts := holdings.contexts.set place ran.1.2 }
        next := ran.2.state.1 } := by
  simp only [take, perform, h]
  rfl

theorem take_create {context : Context} (h : holdings.contexts[place]? = some context)
    (kind : Owner.Kind) (algorithm : String) :
    holdings.take boundary (.act (.create place kind algorithm)) state =
      let call := NativeCall.digestCreate context.handle algorithm
      let created := ((Owner.create boundary context.handle algorithm kind).outcome { state }).1
      { before := holdings, state, step := .act (.create place kind algorithm)
        outcome := created.map fun _ => (), crossings := [.asked call (boundary.replyTo call state)]
        events := (boundary.answer call state).events
        after := holdings.withOwner (created.toOption.map fun owner => { context := place, owner })
        next := boundary.behind call state } := by
  have hevents : (boundary.observed.asked (.digestCreate context.handle algorithm)
      { state := (state, []) }).events.toList =
        (boundary.answer (.digestCreate context.handle algorithm) state).events := by
    simp [Boundary.asked, Boundary.ask]
  simp only [take, perform, h, stateM_bind, Owner.outcome_create_observed]
  cases ((Owner.create boundary context.handle algorithm kind).outcome { state }).1 with
  | error failure => simp [hevents, Except.map, Except.toOption]
  | ok owner => simp [hevents, Except.map, Except.toOption]

theorem take_use {held : Held κ} (h : holdings.owner? place = some held) (use : Owner.Use κ) :
    holdings.take boundary (.act (.use place use)) state =
      let ran := held.owner.used boundary.observed use { state := (state, []) }
      { before := holdings, state, step := .act (.use place use), outcome := ran.1.1
        crossings := ran.2.state.2, events := ran.2.events.toList
        after := holdings.put place (some { held with owner := ran.1.2 })
        next := ran.2.state.1 } := by
  simp only [take, perform, h]
  rfl

/-- Behind a drop, everything but what is logged is the same whatever the engine replied, unless it
panicked. -/
theorem take_drop {held : Held κ} (h : holdings.owner? place = some held) :
    holdings.take boundary (.act (.drop place)) state =
      let call := held.owner.owned.freeCall
      let reply := boundary.replyTo call state
      { before := holdings, state, step := .act (.drop place), outcome := Digest.freed reply
        crossings := [.asked call reply]
        events := (boundary.answer call state).events ++ held.owner.owned.freeWarnings reply
        after := holdings.put place none
        next := held.owner.letGo boundary (boundary.behind call state) } := by
  simp [take, perform, h, stateM_bind, Owner.outcome_drop]

end Take

/-- A call about a context itself: it creates the context, validates it or asks it for a value. -/
inductive AboutContext : NativeCall → Prop where
  | creation (fips : Bool) : AboutContext (.createContext fips)
  | location (context : ContextHandle) : AboutContext (.validateLocation context)
  | version (context : ContextHandle) : AboutContext (.validateVersion context)
  | value (context : ContextHandle) (value : EngineValue) :
      AboutContext (.scalarValue context value)

namespace AboutContext

variable {call : NativeCall}

theorem digest? (h : AboutContext call) : call.digest? = none := by
  cases h <;> rfl

theorem key? (h : AboutContext call) : call.key? = none := by
  cases h <;> rfl

end AboutContext

namespace Transition

/-- What a transition can be that touches no owner. -/
inductive Apart (transition : Transition σ κ) : Prop where
  /-- Nothing crosses: it happens elsewhere, or what it names is not there. -/
  | idle (crossings : transition.crossings = []) (after : transition.after = transition.before)
      (absent : ∀ place, transition.place? = some place → transition.before.owner? place = none)
      (contextless : ∀ place kind algorithm,
        transition.step = .act (.create place kind algorithm) →
          transition.before.contexts[place]? = none)
  | contextCreated {fips : Bool} {config : ContextConfig}
      (step : transition.step = .act (.createContext fips config))
      (calls : ∀ call ∈ transition.calls, AboutContext call)
      (after : transition.after = transition.before ∨
        ∃ context, transition.after = transition.before.withContext context)
  | asked {place : ℕ} {question : Context.Question} {context asked : Context}
      (step : transition.step = .act (.ask place question))
      (found : transition.before.contexts[place]? = some context)
      (calls : ∀ call ∈ transition.calls, ∃ value, call = .scalarValue context.handle value)
      (handle : asked.handle = context.handle)
      (after : transition.after =
        { transition.before with contexts := transition.before.contexts.set place asked })

/-- All that a transition can be, by what crosses and by what is held behind it. -/
inductive Can (transition : Transition σ κ) : Prop where
  | apart (apart : transition.Apart)
  | refused {place : ℕ} {kind : Owner.Kind} {algorithm : String} {context : Context}
      {failure : Failure} {reply : Except String (Except NativeError DigestHandle)}
      (step : transition.step = .act (.create place kind algorithm))
      (found : transition.before.contexts[place]? = some context)
      (crossings : transition.crossings = [.asked (.digestCreate context.handle algorithm) reply])
      (unusable : ∀ handle, reply = .ok (.ok handle) → handle.isValid = false)
      (outcome : transition.outcome = .error failure)
      (after : transition.after = transition.before.withOwner none)
  | created {place : ℕ} {kind : Owner.Kind} {algorithm : String} {context : Context}
      {owner : Owner κ} (step : transition.step = .act (.create place kind algorithm))
      (found : transition.before.contexts[place]? = some context)
      (crossings : transition.crossings =
        [.asked (.digestCreate context.handle algorithm) (.ok (.ok owner.owned.handle))])
      (outcome : transition.outcome = .ok ())
      (valid : owner.owned.handle.isValid = true) (made : owner.owned.context = context.handle)
      (named : owner.owned.algorithm = algorithm)
      (after : transition.after = transition.before.withOwner (some { context := place, owner }))
  | used {place : ℕ} {use : Owner.Use κ} {held : Held κ} {owner : Owner κ}
      (step : transition.step = .act (.use place use))
      (found : transition.before.owner? place = some held)
      (calls : ∀ call ∈ transition.calls, Owner.WorksOn held.owner.owned call)
      (owned : owner.owned = held.owner.owned)
      (after : transition.after = transition.before.put place (some { held with owner }))
  | dropped {place : ℕ} {held : Held κ} {reply : Except String held.owner.owned.freeCall.Reply}
      (step : transition.step = .act (.drop place))
      (found : transition.before.owner? place = some held)
      (crossings : transition.crossings = [.asked held.owner.owned.freeCall reply])
      (after : transition.after = transition.before.put place none)

namespace Apart

variable {transition : Transition σ κ}

theorem aboutContext (h : transition.Apart) : ∀ call ∈ transition.calls, AboutContext call := by
  cases h with
  | idle crossings after =>
      rw [calls, crossings]
      simp
  | contextCreated step calls after => exact calls
  | asked step found calls handle after =>
      intro call hcall
      obtain ⟨value, rfl⟩ := calls call hcall
      exact .value _ value

theorem owners (h : transition.Apart) : transition.after.owners = transition.before.owners := by
  cases h with
  | idle crossings after => rw [after]
  | contextCreated step calls after =>
      rcases after with after | ⟨context, after⟩
      · rw [after]
      · rw [after]
        rfl
  | asked step found calls handle after =>
      rw [after]

/-- What is at a place stays there. -/
theorem owner? (h : transition.Apart) (place : ℕ) :
    transition.after.owner? place = transition.before.owner? place := by
  rw [Holdings.owner?, Holdings.owner?, h.owners]

theorem absent (h : transition.Apart) {place : ℕ} (hplace : transition.place? = some place) :
    transition.before.owner? place = none := by
  cases h with
  | idle crossings after absent => exact absent place hplace
  | contextCreated step calls after =>
      rw [place?, step] at hplace
      cases hplace
  | asked step found calls handle after =>
      rw [place?, step] at hplace
      cases hplace

/-- Nothing crosses at the place of an owner. -/
theorem crossings_of_place (h : transition.Apart) {place : ℕ}
    (hplace : transition.place? = some place) : transition.crossings = [] := by
  cases h with
  | idle crossings after => exact crossings
  | contextCreated step calls after =>
      rw [place?, step] at hplace
      cases hplace
  | asked step found calls handle after =>
      rw [place?, step] at hplace
      cases hplace

theorem contextless (h : transition.Apart) {place : ℕ} {kind : Owner.Kind} {algorithm : String}
    (hstep : transition.step = .act (.create place kind algorithm)) :
    transition.before.contexts[place]? = none := by
  cases h with
  | idle crossings after absent contextless => exact contextless place kind algorithm hstep
  | contextCreated step calls after =>
      rw [step] at hstep
      cases hstep
  | asked step found calls handle after =>
      rw [step] at hstep
      cases hstep

end Apart

end Transition

section Can

variable {boundary} {holdings : Holdings κ} {place : ℕ} {state : σ}

theorem owner?_length (holdings : Holdings κ) : holdings.owner? holdings.owners.length = none := by
  simp [owner?]

theorem take_createContext_apart (fips : Bool) (config : ContextConfig) :
    (holdings.take boundary (.act (.createContext fips config)) state).Apart := by
  have hcrossed := Context.calls_creation boundary fips config (state, [])
  have hcalls := Context.creation_calls boundary.observed fips config (state, [])
  obtain ⟨-, htold, hstate⟩ :=
    (Context.create_does boundary.observed fips config (state, [])).run
  simp only [← htold, ← hstate] at hcrossed hcalls
  rw [take_createContext]
  refine .contextCreated rfl ?_ ?_
  · intro call hcall
    rw [Transition.calls, hcrossed] at hcall
    rcases hcalls call hcall with rfl | ⟨handle, rfl | rfl, -⟩
    · exact .creation fips
    · exact .location handle
    · exact .version handle
  · simp only
    cases ((Context.create boundary.observed fips config).outcome { state := (state, []) }).1 with
    | error failure => exact .inl rfl
    | ok context => exact .inr ⟨context, rfl⟩

theorem take_ask_apart (question : Context.Question) :
    (holdings.take boundary (.act (.ask place question)) state).Apart := by
  cases hfound : holdings.contexts[place]? with
  | none =>
      rw [take_ask_of_none boundary state hfound]
      exact .idle rfl rfl (by simp [Transition.idle, Transition.place?])
        (by simp [Transition.idle])
  | some context =>
      obtain ⟨hhandle, hcalls⟩ := context.answer_calls boundary question state
      rw [take_ask boundary state hfound]
      exact .asked rfl hfound hcalls hhandle rfl

theorem take_create_can (kind : Owner.Kind) (algorithm : String) :
    (holdings.take boundary (.act (.create place kind algorithm)) state).Can := by
  cases hfound : holdings.contexts[place]? with
  | none =>
      rw [take_create_of_none boundary state hfound]
      refine .apart (.idle rfl rfl ?_ ?_)
      · rintro _ ⟨⟩
        exact owner?_length holdings
      · rintro _ _ _ ⟨⟩
        exact hfound
  | some context =>
      rw [take_create boundary state hfound]
      cases hcreated : ((Owner.create boundary context.handle algorithm kind).outcome { state }).1 with
      | error failure =>
          exact .refused rfl hfound rfl (Owner.create_eq_error boundary hcreated) rfl rfl
      | ok owner =>
          obtain ⟨hreply, hvalid, hmade, hnamed⟩ := Owner.create_eq_ok boundary hcreated
          refine .created rfl hfound ?_ rfl hvalid hmade hnamed rfl
          simp only [hreply]

theorem take_use_can (use : Owner.Use κ) :
    (holdings.take boundary (.act (.use place use)) state).Can := by
  cases hfound : holdings.owner? place with
  | none =>
      rw [take_use_of_none boundary state hfound]
      refine .apart (.idle rfl rfl ?_ (by simp [Transition.idle]))
      rintro _ ⟨⟩
      exact hfound
  | some held =>
      obtain ⟨howned, hcalls⟩ := held.owner.used_worksOn boundary use state
      rw [take_use boundary state hfound]
      exact .used rfl hfound hcalls howned rfl

theorem take_drop_can : (holdings.take boundary (.act (.drop place)) state).Can := by
  cases hfound : holdings.owner? place with
  | none =>
      rw [take_drop_of_none boundary state hfound]
      refine .apart (.idle rfl rfl ?_ (by simp [Transition.idle]))
      rintro _ ⟨⟩
      exact hfound
  | some held =>
      rw [take_drop boundary state hfound]
      exact .dropped rfl hfound rfl rfl

/-- Whatever step is taken, and whatever the engine answers, a transition can be nothing else. -/
theorem take_can (step : Step σ κ) : (holdings.take boundary step state).Can := by
  cases step with
  | elsewhere change =>
      exact .apart (.idle rfl rfl (by simp [take, Transition.place?]) (by simp [take]))
  | act action =>
      cases action with
      | createContext fips config => exact .apart (take_createContext_apart fips config)
      | ask place question => exact .apart (take_ask_apart question)
      | create place kind algorithm => exact take_create_can kind algorithm
      | use place use => exact take_use_can use
      | drop place => exact take_drop_can

end Can

/-! ### Runs -/

section Runs

@[simp] theorem take_step (holdings : Holdings κ) (step : Step σ κ) (state : σ) :
    (holdings.take boundary step state).step = step := by
  cases step <;> rfl

@[simp] theorem take_before (holdings : Holdings κ) (step : Step σ κ) (state : σ) :
    (holdings.take boundary step state).before = holdings := by
  cases step <;> rfl

@[simp] theorem take_state (holdings : Holdings κ) (step : Step σ κ) (state : σ) :
    (holdings.take boundary step state).state = state := by
  cases step <;> rfl

/-- What holds of the run of no steps, and of a run whenever it holds of what is behind the first
transition, holds of every run. If the process ends, there is nothing behind, which is the run of no
steps. -/
theorem run_induction {A : Step σ κ → Prop} {P : Holdings κ → σ → List (Transition σ κ) → Prop}
    (nil : ∀ holdings state, P holdings state [])
    (cons : ∀ holdings step later state, A step →
      let first := holdings.take boundary step state
      let rest := first.after.run boundary later first.next
      P first.after first.next rest → P holdings state (first :: rest))
    {steps : List (Step σ κ)} (hsteps : ∀ step ∈ steps, A step) (holdings : Holdings κ)
    (state : σ) : P holdings state (holdings.run boundary steps state) := by
  induction steps generalizing holdings state with
  | nil => exact nil holdings state
  | cons step rest ih =>
      have hstep := hsteps step List.mem_cons_self
      rw [run]
      split
      · exact cons holdings step [] state hstep (nil _ _)
      · apply cons holdings step rest state hstep
        exact ih (fun other hother => hsteps other (List.mem_cons_of_mem _ hother)) _ _

/-- What each transition preserves, whatever was before it, holds all along a run, and each
transition does what this lets it do. -/
theorem run_history {A : Step σ κ → Prop}
    {P : List (Transition σ κ) → Holdings κ → σ → Prop}
    {Q : List (Transition σ κ) → Transition σ κ → Prop}
    (hstep : ∀ earlier holdings step state, A step → P earlier holdings state →
      let taken := holdings.take boundary step state
      Q earlier taken ∧ P (earlier ++ [taken]) taken.after taken.next)
    (earlier : List (Transition σ κ)) {holdings : Holdings κ} {steps : List (Step σ κ)} {state : σ}
    (hsteps : ∀ step ∈ steps, A step) (hholds : P earlier holdings state)
    {before rest : List (Transition σ κ)} {transition : Transition σ κ}
    (hrun : holdings.run boundary steps state = before ++ transition :: rest) :
    Q (earlier ++ before) transition := by
  revert earlier before
  apply run_induction boundary (P := fun holdings state transitions =>
    ∀ earlier, P earlier holdings state → ∀ before, transitions = before ++ transition :: rest →
      Q (earlier ++ before) transition) ?_ ?_ hsteps
  · intro holdings state earlier _ before hrun
    simp at hrun
  · intro holdings step later state hallowed first behind ih earlier hholds before hrun
    obtain ⟨hdoes, hnext⟩ := hstep earlier holdings step state hallowed hholds
    cases before with
    | nil =>
        rw [List.nil_append, List.cons.injEq] at hrun
        rw [List.append_nil, ← hrun.1]
        exact hdoes
    | cons other before =>
        rw [List.cons_append, List.cons.injEq] at hrun
        rw [List.append_cons earlier, ← hrun.1]
        exact ih _ hnext before hrun.2

/-- What each transition preserves holds all along a run. -/
theorem run_forall {A : Step σ κ → Prop} {P : Holdings κ → σ → Prop}
    {Q : Transition σ κ → Prop}
    (hstep : ∀ holdings step state, A step → P holdings state →
      let taken := holdings.take boundary step state
      Q taken ∧ P taken.after taken.next)
    {holdings : Holdings κ} {steps : List (Step σ κ)} {state : σ}
    (hsteps : ∀ step ∈ steps, A step) (hholds : P holdings state) :
    ∀ transition ∈ holdings.run boundary steps state, Q transition := by
  intro transition hmem
  obtain ⟨before, rest, hrun⟩ := List.append_of_mem hmem
  exact run_history boundary (P := fun _ => P) (Q := fun _ => Q) (fun _ => hstep) [] hsteps hholds
    hrun

/-- Each transition of a run is the one of its step, and behind it there is a run from what is held
then. -/
theorem run_split {holdings : Holdings κ} {steps : List (Step σ κ)} {state : σ}
    {before rest : List (Transition σ κ)} {transition : Transition σ κ}
    (hrun : holdings.run boundary steps state = before ++ transition :: rest) :
    transition = transition.before.take boundary transition.step transition.state ∧
      ∃ later, rest = transition.after.run boundary later transition.next := by
  revert before
  apply run_induction boundary (A := fun _ => True) (P := fun _ _ transitions =>
    ∀ before, transitions = before ++ transition :: rest →
      transition = transition.before.take boundary transition.step transition.state ∧
        ∃ later, rest = transition.after.run boundary later transition.next) ?_ ?_
    (fun _ _ => trivial)
  · intro _ _ before hrun
    simp at hrun
  · intro holdings step later state _ first behind ih before hrun
    cases before with
    | nil =>
        rw [List.nil_append, List.cons.injEq] at hrun
        obtain ⟨rfl, rfl⟩ := hrun
        exact ⟨by simp [first], later, rfl⟩
    | cons other before =>
        rw [List.cons_append, List.cons.injEq] at hrun
        exact ih before hrun.2

end Runs

end Holdings

end SigningEngine
