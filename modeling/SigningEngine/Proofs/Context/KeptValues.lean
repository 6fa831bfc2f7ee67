import Mathlib.Logic.Function.Basic
import SigningEngine.Proofs.Context.SharedValue

/-!
# The values that a context keeps, under many callers

Callers ask for the version and for the install path of one context, and their steps come in any
order. The engine may give any reply to a fetch, and panic at it.

The main statement is `values_fetched_lazily`: what the callers get and what reaches the engine,
whatever the order. Either value is as if the callers who ask for the other one were not there.
-/

namespace SigningEngine.Context

open SharedValue

/-- The values that a context keeps. -/
inductive Kept where
  | version
  | installPath
  deriving DecidableEq, Repr

namespace Kept

def value : Kept → EngineValue
  | version => .version
  | installPath => .installPath

/-- What a context keeps of it. -/
def cell (context : Context) : Kept → Option String
  | version => context.version
  | installPath => context.installPath

/-- The call that fetches it. -/
def fetchCall (context : Context) (kept : Kept) : NativeCall :=
  .scalarValue context.handle kept.value

theorem fetchCall_inj {context : Context} {kept other : Kept} :
    kept.fetchCall context = other.fetchCall context ↔ kept = other := by
  cases kept <;> cases other <;> simp [fetchCall, value]

end Kept

/-- Both values, each with as many callers who ask for it. -/
def fields (context : Context) (readers : Kept → Nat) : Kept → SharedValue :=
  fun kept => .ofCallers (kept.cell context) (readers kept)

variable {σ κ : Type} (boundary : Boundary σ κ) (context : Context)

/-- How a fetch ends in a state of the surroundings. -/
def fetched (kept : Kept) (state : σ) : Except Failure String :=
  Failure.ofReply (.query kept.value)
    (boundary.replyTo (.scalarValue context.handle kept.value) state)

/-- A step of one caller. -/
structure Move (σ : Type) where
  kept : Kept
  caller : Nat
  /-- The state in which the step is taken. -/
  state : σ
  calls : List NativeCall

/-- How the fetch ended that a step was, if it was one. -/
def Move.fetch? (move : Move σ) : Option (Except Failure String) :=
  if move.calls = [] then none else some (fetched boundary context move.kept move.state)

/-- What the steps of callers come to. -/
structure Moved (σ : Type) where
  moves : List (Move σ)
  fields : Kept → SharedValue
  state : σ

/-- Lets a caller of one of the values take its next step. -/
def move (fields : Kept → SharedValue) (kept : Kept) (caller : Nat) (state : σ) :
    Move σ × (Kept → SharedValue) × σ :=
  let advanced := (fields kept).advance (context.fetchValue boundary kept.value) caller { state }
  ({ kept, caller, state, calls := advanced.2.calls.toList },
    Function.update fields kept advanced.1, advanced.2.state)

/-- Lets callers take steps in the order of a schedule. -/
def moves (fields : Kept → SharedValue) : List (Kept × Nat) → σ → Moved σ
  | [], state => { moves := [], fields, state }
  | (kept, caller) :: rest, state =>
    let (first, fields, state) := move boundary context fields kept caller state
    let others := moves fields rest state
    { others with moves := first :: others.moves }

/-- The fetches of one of the values, each with the caller who made it. -/
def fetchesOf (kept : Kept) (moves : List (Move σ)) : List (Nat × Except Failure String) :=
  moves.filterMap fun move =>
    if move.kept = kept then (move.fetch? boundary context).map (move.caller, ·) else none

/-- The part of a schedule that is about one of the values. -/
def turnsOf (kept : Kept) (schedule : List (Kept × Nat)) : List Nat :=
  schedule.filterMap fun turn => if turn.1 = kept then some turn.2 else none

/-- Fetches whose outcomes are laid down, one after the other. -/
def dealt : Attempt (List (Except Failure String)) String := ExceptT.mk fun run =>
  match run.state with
  | [] => (.error .abort, run)
  | outcome :: rest => (outcome, { run with state := rest })

theorem outcome_fetchValue (kept : Kept) (run : Run σ) :
    (context.fetchValue boundary kept.value).outcome run =
      (fetched boundary context kept run.state,
        boundary.asked (kept.fetchCall context)
          (run.logged [.valueRequested kept.value context.handle])) := by
  rw [fetchValue, Attempt.outcome_bind, Attempt.outcome_log]
  exact Attempt.outcome_orError _ (Attempt.outcome_request boundary _ _)

section Move

variable (fields : Kept → SharedValue) (kept : Kept) (caller : Nat) (state : σ)

@[simp] theorem move_kept : (move boundary context fields kept caller state).1.kept = kept := rfl

/-- Nothing but a fetch reaches the engine. -/
theorem move_calls :
    (move boundary context fields kept caller state).1.calls =
      if (fields kept).asks caller then [kept.fetchCall context] else [] := by
  simp only [move, advance_run, outcome_fetchValue]
  split <;> rfl

theorem move_fetch? :
    (move boundary context fields kept caller state).1.fetch? boundary context =
      (fields kept).fetchOf caller (fetched boundary context kept state) := by
  rw [Move.fetch?, move_calls, fetchOf]
  split <;> rfl

theorem move_fields (other : Kept) :
    (move boundary context fields kept caller state).2.1 other =
      if other = kept then
        ((fields kept).advance (context.fetchValue boundary kept.value) caller { state }).1
      else fields other := by
  simp [move, Function.update_apply]

theorem move_advances :
    (fields kept).Advances caller
      ((move boundary context fields kept caller state).1.fetch? boundary context)
      ((move boundary context fields kept caller state).2.1 kept) := by
  have hadvances := (fields kept).advance_advances (context.fetchValue boundary kept.value) caller
    { state }
  rw [outcome_fetchValue] at hadvances
  rw [move_fetch?, move_fields, if_pos rfl]
  exact hadvances

end Move

@[simp] theorem moves_nil (fields : Kept → SharedValue) (state : σ) :
    moves boundary context fields [] state = { moves := [], fields, state } := rfl

theorem moves_cons (fields : Kept → SharedValue) (turn : Kept × Nat)
    (rest : List (Kept × Nat)) (state : σ) :
    moves boundary context fields (turn :: rest) state =
      let first := move boundary context fields turn.1 turn.2 state
      let others := moves boundary context first.2.1 rest first.2.2
      { others with moves := first.1 :: others.moves } := rfl

theorem fetchesOf_cons (kept : Kept) (first : Move σ) (others : List (Move σ)) :
    fetchesOf boundary context kept (first :: others) =
      (if first.kept = kept then
        (first.fetch? boundary context).toList.map (first.caller, ·) else []) ++
        fetchesOf boundary context kept others := by
  rw [fetchesOf, List.filterMap_cons, fetchesOf]
  split
  next hnone =>
    split at hnone
    next hkept => simp [hkept, Option.map_eq_none_iff.mp hnone]
    next hkept => simp [hkept]
  next fetch hsome =>
    split at hsome
    next hkept =>
      obtain ⟨outcome, houtcome, rfl⟩ := Option.map_eq_some_iff.mp hsome
      simp [hkept, houtcome]
    next => cases hsome

theorem turnsOf_cons (kept : Kept) (turn : Kept × Nat) (rest : List (Kept × Nat)) :
    turnsOf kept (turn :: rest) =
      (if turn.1 = kept then [turn.2] else []) ++ turnsOf kept rest := by
  rw [turnsOf, List.filterMap_cons, turnsOf]
  split <;> split at * <;> simp_all

/-- What every run keeps, of either value. -/
theorem moves_consistent (kept : Kept) (schedule : List (Kept × Nat))
    {fields : Kept → SharedValue} {past : List (Nat × Except Failure String)} (state : σ)
    (h : Consistent past (fields kept)) :
    let ran := moves boundary context fields schedule state
    Consistent (past ++ fetchesOf boundary context kept ran.moves) (ran.fields kept) := by
  induction schedule generalizing fields past state with
  | nil => simpa [fetchesOf] using h
  | cons turn rest ih =>
      obtain ⟨asking, caller⟩ := turn
      rw [moves_cons]
      simp only [fetchesOf_cons, ← List.append_assoc]
      refine ih _ ?_
      by_cases hkept : asking = kept
      · subst hkept
        have hstep := h.step (move_advances boundary context fields asking caller state)
        simpa [move] using hstep
      · rw [move_fields, if_neg (Ne.symm hkept)]
        simpa [move, hkept] using h

/-- A move asks for its own value, if it asks at all. -/
theorem fetchCall_mem_calls {fields : Kept → SharedValue} {asking kept : Kept} {caller : Nat}
    {state : σ}
    (h : kept.fetchCall context ∈ (move boundary context fields asking caller state).1.calls) :
    asking = kept ∧ (fields kept).asks caller = true := by
  rw [move_calls] at h
  split at h
  next hasks =>
    rw [List.mem_singleton, Kept.fetchCall_inj] at h
    exact ⟨h.symm, h ▸ hasks⟩
  next => cases h

/-- A value that is kept stays, whatever the callers do, and is not fetched again. -/
theorem moves_resolved (kept : Kept) (schedule : List (Kept × Nat)) {fields : Kept → SharedValue}
    {past : List (Nat × Except Failure String)} (state : σ) (h : Consistent past (fields kept))
    {value : String} (hvalue : (fields kept).value = some value) :
    let ran := moves boundary context fields schedule state
    (ran.fields kept).value = some value ∧
      kept.fetchCall context ∉ ran.moves.flatMap Move.calls := by
  induction schedule generalizing fields past state with
  | nil => exact ⟨hvalue, by simp⟩
  | cons turn rest ih =>
      obtain ⟨asking, caller⟩ := turn
      have hadvances := move_advances boundary context fields asking caller state
      have hcalls : kept.fetchCall context ∉
          (move boundary context fields asking caller state).1.calls := by
        intro hmem
        obtain ⟨rfl, hasks⟩ := fetchCall_mem_calls boundary context hmem
        obtain ⟨hnone, -⟩ := h.accounts caller _ (asks_iff.mp hasks)
        rw [hvalue] at hnone
        cases hnone
      have hnext : ∃ past, Consistent past
          ((move boundary context fields asking caller state).2.1 kept) ∧
            ((move boundary context fields asking caller state).2.1 kept).value = some value := by
        by_cases hkept : asking = kept
        · subst hkept
          exact ⟨_, h.step hadvances, (h.resolved hvalue hadvances).2⟩
        · rw [move_fields, if_neg (Ne.symm hkept)]
          exact ⟨past, h, hvalue⟩
      obtain ⟨past, hconsistent, hvalue⟩ := hnext
      obtain ⟨hlater, hrest⟩ := ih _ hconsistent hvalue
      rw [moves_cons]
      refine ⟨hlater, ?_⟩
      simp only [List.flatMap_cons, List.mem_append, not_or]
      exact ⟨hcalls, hrest⟩

/-- The calls for a value are its fetches. -/
theorem count_fetchCall (kept : Kept) (schedule : List (Kept × Nat)) (fields : Kept → SharedValue)
    (state : σ) :
    let ran := moves boundary context fields schedule state
    (ran.moves.flatMap Move.calls).count (kept.fetchCall context) =
      (fetchesOf boundary context kept ran.moves).length := by
  induction schedule generalizing fields state with
  | nil => rfl
  | cons turn rest ih =>
      obtain ⟨asking, caller⟩ := turn
      rw [moves_cons]
      simp only [List.flatMap_cons, List.count_append, fetchesOf_cons, List.length_append, ih]
      congr 1
      rw [move_fetch?, fetchOf, move_calls]
      cases (fields asking).asks caller with
      | false => simp
      | true =>
          by_cases hkept : asking = kept
          · subst hkept
            simp [move]
          · simp [move, hkept, Kept.fetchCall_inj]

/-- What was recorded before is no matter to a step. -/
theorem advance_recorded (shared : SharedValue) (kept : Kept) (caller : Nat) (run : Run σ) :
    let fetch := context.fetchValue boundary kept.value
    (shared.advance fetch caller run).1 = (shared.advance fetch caller { state := run.state }).1 ∧
      (shared.advance fetch caller run).2.state =
        (shared.advance fetch caller { state := run.state }).2.state := by
  cases hasks : shared.asks caller with
  | true =>
      intro fetch
      rw [advance_of_asks hasks, advance_of_asks hasks, outcome_fetchValue, outcome_fetchValue]
      exact ⟨rfl, rfl⟩
  | false =>
      obtain ⟨next, -, hadvance⟩ := advance_of_not_asks hasks
      simp only [hadvance, and_self]

/-- The steps of callers who all ask for the same value. -/
theorem moves_alone (kept : Kept) (schedule : List Nat) (fields : Kept → SharedValue)
    (run : Run σ) :
    let alone := (fields kept).run (context.fetchValue boundary kept.value) schedule run
    let ran := moves boundary context fields (schedule.map (kept, ·)) run.state
    ran.fields kept = alone.1 ∧ ran.state = alone.2.state := by
  induction schedule generalizing fields run with
  | nil => exact ⟨rfl, rfl⟩
  | cons caller rest ih =>
      obtain ⟨hshared, hstate⟩ := advance_recorded boundary context (fields kept) kept caller run
      have hfields : (move boundary context fields kept caller run.state).2.1 kept =
          ((fields kept).advance (context.fetchValue boundary kept.value) caller run).1 := by
        rw [move_fields, if_pos rfl, hshared]
      have hnext : (move boundary context fields kept caller run.state).2.2 =
          ((fields kept).advance (context.fetchValue boundary kept.value) caller run).2.state :=
        hstate.symm
      have hrest := ih (move boundary context fields kept caller run.state).2.1
        ((fields kept).advance (context.fetchValue boundary kept.value) caller run).2
      rw [hfields, ← hnext] at hrest
      rw [List.map_cons, moves_cons, run_cons]
      exact hrest

/-- A value comes to what its own callers make of it, in their own order, with the outcomes of
their own fetches. Those of the other value have no part in it. -/
theorem moves_apart (kept : Kept) (schedule : List (Kept × Nat)) (fields : Kept → SharedValue)
    (state : σ) (rest : List (Except Failure String)) :
    let ran := moves boundary context fields schedule state
    (fields kept).run dealt (turnsOf kept schedule)
        { state := (fetchesOf boundary context kept ran.moves).map Prod.snd ++ rest } =
      (ran.fields kept, { state := rest }) := by
  induction schedule generalizing fields state with
  | nil => rfl
  | cons turn others ih =>
      obtain ⟨asking, caller⟩ := turn
      have hothers := ih (move boundary context fields asking caller state).2.1
        (move boundary context fields asking caller state).2.2
      rw [moves_cons]
      simp only [fetchesOf_cons, turnsOf_cons, List.map_append, List.append_assoc] at hothers ⊢
      by_cases hkept : asking = kept
      · subst hkept
        rw [move_fields, if_pos rfl] at hothers
        simp only [move_kept, if_true, move_fetch?, fetchOf, List.singleton_append]
        rw [run_cons]
        cases hasks : (fields asking).asks caller with
        | true =>
            rw [advance_of_asks hasks, outcome_fetchValue] at hothers
            rw [advance_of_asks hasks]
            exact hothers
        | false =>
            obtain ⟨next, -, hadvance⟩ := advance_of_not_asks hasks
            rw [hadvance] at hothers ⊢
            exact hothers
      · rw [move_fields, if_neg (Ne.symm hkept)] at hothers
        simpa [move, hkept] using hothers

theorem moves_length (kept : Kept) (schedule : List (Kept × Nat)) (fields : Kept → SharedValue)
    (state : σ) :
    ((moves boundary context fields schedule state).fields kept).callers.length =
      (fields kept).callers.length := by
  induction schedule generalizing fields state with
  | nil => rfl
  | cons turn rest ih =>
      obtain ⟨asking, caller⟩ := turn
      rw [moves_cons]
      refine (ih _ _).trans ?_
      by_cases hkept : asking = kept
      · subst hkept
        exact (move_advances boundary context fields asking caller state).length
      · rw [move_fields, if_neg (Ne.symm hkept)]

/-- Every move asks for its own value, if it asks at all. -/
theorem moves_calls (schedule : List (Kept × Nat)) (fields : Kept → SharedValue) (state : σ) :
    ∀ move ∈ (moves boundary context fields schedule state).moves,
      move.calls = [] ∨ move.calls = [move.kept.fetchCall context] := by
  induction schedule generalizing fields state with
  | nil => simp
  | cons turn rest ih =>
      rw [moves_cons]
      intro other hother
      rcases List.mem_cons.mp hother with rfl | hrest
      · rw [move_calls, move_kept]
        split
        · exact .inr rfl
        · exact .inl rfl
      · exact ih _ _ other hrest

/-- A caller on its own who finds nothing kept fetches, gets the outcome, and keeps the value. -/
theorem moves_turn (kept : Kept) {fields : Kept → SharedValue} {caller : Nat} (state : σ)
    (hcaller : (fields kept).callers[caller]? = some .arrived) (hguard : (fields kept).guard = none)
    (hvalue : (fields kept).value = none) :
    let outcome := fetched boundary context kept state
    (moves boundary context fields ((turn caller).map (kept, ·)) state).fields kept =
      { (fields kept).setCaller caller (.served outcome) with value := outcome.toOption } := by
  obtain ⟨hfields, -⟩ := moves_alone boundary context kept (turn caller) fields { state }
  have hturn := run_turn (context.fetchValue boundary kept.value) hcaller hguard
  simp only at hfields
  rw [hfields, hturn, hvalue, stateM_bind, fetchOnce, stateM_bind, outcome_fetchValue]
  cases fetched boundary context kept state <;> rfl

/-- A fetch that fails finds nothing kept and leaves nothing kept. -/
theorem move_failed (kept : Kept) {fields : Kept → SharedValue}
    {past : List (Nat × Except Failure String)} (state : σ) (h : Consistent past (fields kept))
    (caller : Nat) (failure : Failure)
    (hfailed : (move boundary context fields kept caller state).1.fetch? boundary context =
      some (.error failure)) :
    (fields kept).value = none ∧
      ((move boundary context fields kept caller state).2.1 kept).value = none := by
  have hadvances := move_advances boundary context fields kept caller state
  cases hvalue : (fields kept).value with
  | some value =>
      obtain ⟨hnone, -⟩ := h.resolved hvalue hadvances
      rw [hfailed] at hnone
      cases hnone
  | none =>
      rw [hfailed] at hadvances
      exact ⟨rfl, hadvances.value_of_failed.trans hvalue⟩

theorem moves_usable (kept : Kept) {fields : Kept → SharedValue}
    {past : List (Nat × Except Failure String)} (state : σ) (h : Consistent past (fields kept))
    {caller : Nat} (hcaller : caller < (fields kept).callers.length) :
    ∃ (later : List Nat) (outcome : Except Failure String),
      let next := moves boundary context fields (later.map (kept, ·)) state
      (next.fields kept).callers[caller]? = some (.served outcome) := by
  obtain ⟨later, outcome, hserved⟩ :=
    h.gets_through (context.fetchValue boundary kept.value) { state } hcaller
  obtain ⟨hfields, -⟩ := moves_alone boundary context kept later fields { state }
  exact ⟨later, outcome, by simpa only [hfields] using hserved⟩

/-- What holds of one value after any steps of the callers of both, where so many ask for it and
take their own steps in this order. -/
structure FetchedLazily (kept : Kept) (readers : Nat) (turns : List Nat) (ran : Moved σ) :
    Prop where
  callers : FetchedOnce (fetchesOf boundary context kept ran.moves) (ran.fields kept)
  /-- Who asks for a value makes no call for the other one. -/
  asks : ∀ move ∈ ran.moves, move.calls = [] ∨ move.calls = [move.kept.fetchCall context]
  /-- The calls for the value are the fetches of its callers. -/
  calls : (ran.moves.flatMap Move.calls).count (kept.fetchCall context) =
    (fetchesOf boundary context kept ran.moves).length
  /-- A fetch that fails next finds nothing kept and leaves nothing kept. -/
  failed : ∀ caller failure,
    let next := move boundary context ran.fields kept caller ran.state
    next.1.fetch? boundary context = some (.error failure) →
      (ran.fields kept).value = none ∧ (next.2.1 kept).value = none
  /-- Every caller can still get through. -/
  usable : ∀ caller < readers, ∃ (later : List Nat) (outcome : Except Failure String),
    let next := moves boundary context ran.fields (later.map (kept, ·)) ran.state
    (next.fields kept).callers[caller]? = some (.served outcome)
  /-- As long as nothing is kept, a caller who comes when nobody is in progress fetches anew. -/
  retried : (∀ caller ∈ (ran.fields kept).callers, caller.inProgress = false) →
    (ran.fields kept).value = none →
    ∀ caller : Nat, (ran.fields kept).callers[caller]? = some .arrived →
      let outcome := fetched boundary context kept ran.state
      (moves boundary context ran.fields ((turn caller).map (kept, ·)) ran.state).fields kept =
        { (ran.fields kept).setCaller caller (.served outcome) with value := outcome.toOption }
  /-- A value that is kept is the one for all times, and no later call asks for it. -/
  settled : ∀ value, (ran.fields kept).value = some value → ∀ later,
    let next := moves boundary context ran.fields later ran.state
    (next.fields kept).value = some value ∧
      kept.fetchCall context ∉ next.moves.flatMap Move.calls
  /-- Nothing depends on the callers of the other value. -/
  apart : (ofCallers none readers).run dealt turns
      { state := (fetchesOf boundary context kept ran.moves).map Prod.snd } =
    (ran.fields kept, { state := [] })

/-- The values of a context that was created are fetched lazily, each of them at most once with
success, whatever the engine answers, and in whatever order the callers take their steps. -/
theorem values_fetched_lazily (handle : ContextHandle) (fips : Bool) (readers : Kept → Nat)
    (schedule : List (Kept × Nat)) (state : σ) (kept : Kept) :
    let context : Context := { handle, fips }
    FetchedLazily boundary context kept (readers kept) (turnsOf kept schedule)
      (moves boundary context (context.fields readers) schedule state) := by
  intro context
  have hstart : context.fields readers kept = ofCallers none (readers kept) := by
    cases kept <;> rfl
  have hconsistent := moves_consistent boundary context kept schedule state
    (hstart ▸ consistent_ofCallers (readers kept))
  simp only [List.nil_append] at hconsistent
  exact {
    callers := hconsistent.fetchedOnce
    asks := moves_calls boundary context schedule _ state
    calls := count_fetchCall boundary context kept schedule _ state
    failed := move_failed boundary context kept _ hconsistent
    usable := by
      intro caller hcaller
      refine moves_usable boundary context kept _ hconsistent ?_
      rw [moves_length, hstart]
      simpa [ofCallers] using hcaller
    retried := by
      intro hidle hvalue caller hcaller
      exact moves_turn boundary context kept _ hcaller (hconsistent.guarded.free hidle) hvalue
    settled := by
      intro value hvalue later
      exact moves_resolved boundary context kept later _ hconsistent hvalue
    apart := by
      have happart := moves_apart boundary context kept schedule (context.fields readers) state []
      simp only [List.append_nil, hstart] at happart
      exact happart }

/-- All three see nothing kept. The first one's fetch fails, the second one's does not, and the last
one need not fetch. -/
example :
    ((ofCallers none 3).run dealt [0, 1, 2, 0, 0, 1, 0, 0, 0, 1, 1, 2, 1, 1, 1, 2, 2, 2]
      { state := [.error (.panic "lost"), .ok "4.1"] }).1.outcomes =
        [.error (.panic "lost"), .ok "4.1", .ok "4.1"] := rfl

end SigningEngine.Context
