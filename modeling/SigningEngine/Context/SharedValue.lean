import SigningEngine.Context.Basic

/-!
# Values that several callers ask for at once

A caller first looks whether the value is kept. If not, the caller waits for the guard, which one
caller at a time can have, and looks again once it has it, since another caller may have fetched the
value meanwhile. Only if there is still none does it fetch the value, keep it, and give the guard
back. A failed fetch is the failure of its caller alone and keeps nothing.

Callers advance one step at a time, in the order of a schedule. The main statement is that a caller
who finds the guard free and is let through without a break gets what a caller on its own gets.
-/

namespace SigningEngine

/-- Where a caller stands. -/
inductive Caller where
  | arrived
  /-- Saw no value, and waits for the guard. -/
  | waiting
  /-- Has the guard, and will look again. -/
  | admitted
  /-- Has the guard, and saw no value again. -/
  | fetching
  /-- Has the guard, and a value to be kept. -/
  | keeping (value : String)
  /-- Has the guard, and no more use for it. -/
  | leaving (outcome : Except Failure String)
  | served (outcome : Except Failure String)
  deriving Repr

namespace Caller

def outcome? : Caller → Option (Except Failure String)
  | served outcome => some outcome
  | _ => none

end Caller

structure SharedValue where
  value : Option String
  /-- Which caller has the guard. -/
  guard : Option Nat := none
  callers : List Caller
  deriving Repr

namespace SharedValue

variable {σ : Type}

/-- A value and as many callers who ask for it. -/
def ofCallers (value : Option String) (callers : Nat) : SharedValue :=
  { value, callers := List.replicate callers .arrived }

def setCaller (shared : SharedValue) (i : Nat) (caller : Caller) : SharedValue :=
  { shared with callers := shared.callers.set i caller }

/-- The step of caller `i` from where it stands. A caller who waits for a guard that another one has
stays where it is. -/
def advanceFrom (fetch : Attempt σ String) (shared : SharedValue) (i : Nat) :
    Caller → Native σ SharedValue
  | .arrived =>
    match shared.value with
    | some value => return shared.setCaller i (.served (.ok value))
    | none => return shared.setCaller i .waiting
  | .waiting =>
    match shared.guard with
    | some _ => return shared
    | none => return { shared.setCaller i .admitted with guard := some i }
  | .admitted =>
    match shared.value with
    | some value => return shared.setCaller i (.leaving (.ok value))
    | none => return shared.setCaller i .fetching
  | .fetching => do
    match ← fetch.outcome with
    | .ok value => return shared.setCaller i (.keeping value)
    | .error failure => return shared.setCaller i (.leaving (.error failure))
  | .keeping value =>
    let kept := shared.value.getD value
    return { shared.setCaller i (.leaving (.ok kept)) with value := some kept }
  | .leaving outcome => return { shared.setCaller i (.served outcome) with guard := none }
  | .served _ => return shared

/-- The next step of caller `i`. -/
def advance (fetch : Attempt σ String) (shared : SharedValue) (i : Nat) : Native σ SharedValue :=
  match shared.callers[i]? with
  | some caller => shared.advanceFrom fetch i caller
  | none => return shared

/-- Lets callers advance in the order of a schedule. -/
def run (fetch : Attempt σ String) (schedule : List Nat) (shared : SharedValue) :
    Native σ SharedValue :=
  schedule.foldlM (advance fetch) shared

/-- The most steps that a caller takes who is let through. -/
def stepsOfTurn : Nat := 6

/-- A caller's steps without a break. -/
def turn (i : Nat) : List Nat := List.replicate stepsOfTurn i

/-- Lets every caller through, one after the other. -/
def serve (shared : SharedValue) (fetch : Attempt σ String) : Native σ SharedValue :=
  shared.run fetch ((List.range shared.callers.length).flatMap turn)

/-- What the callers got who are served. -/
def outcomes (shared : SharedValue) : List (Except Failure String) :=
  shared.callers.filterMap Caller.outcome?

theorem run_append (fetch : Attempt σ String) (first second : List Nat) (shared : SharedValue) :
    shared.run fetch (first ++ second) = shared.run fetch first >>= run fetch second := by
  rw [run, List.foldlM_append]
  rfl

theorem advance_eq (fetch : Attempt σ String) {shared : SharedValue} {i : Nat} {caller : Caller}
    (h : shared.callers[i]? = some caller) :
    shared.advance fetch i = shared.advanceFrom fetch i caller := by
  simp [advance, h]

theorem advance_set (fetch : Attempt σ String) {value : Option String} {guard : Option Nat}
    {callers : List Caller} {i : Nat} {caller : Caller} (h : i < callers.length) :
    (SharedValue.mk value guard (callers.set i caller)).advance fetch i =
      (SharedValue.mk value guard (callers.set i caller)).advanceFrom fetch i caller :=
  advance_eq fetch (List.getElem?_set_self h)

/-- A caller who finds the guard free and is let through gets what a caller on its own gets. -/
theorem run_turn (fetch : Attempt σ String) {shared : SharedValue} {i : Nat}
    (hcaller : shared.callers[i]? = some .arrived) (hguard : shared.guard = none) :
    shared.run fetch (turn i) = do
      let (outcome, value) ← Context.fetchOnce shared.value fetch
      return { shared.setCaller i (.served outcome) with value } := by
  obtain ⟨hi, -⟩ := List.getElem?_eq_some_iff.1 hcaller
  obtain ⟨value, guard, callers⟩ := shared
  simp only at hguard hcaller hi
  subst hguard
  simp only [run, turn, stepsOfTurn, List.replicate, List.foldlM_cons, List.foldlM_nil]
  rw [advance_eq fetch hcaller]
  cases value with
  | some value =>
    simp [advanceFrom, setCaller, advance_set fetch hi, Context.fetchOnce]
  | none =>
    simp only [advanceFrom, setCaller, pure_bind, advance_set fetch hi, List.set_set,
      Context.fetchOnce, bind_assoc]
    congr 1
    funext outcome
    cases outcome <;>
      simp [advanceFrom, setCaller, advance_set fetch hi]

end SharedValue

namespace Context

variable {σ κ : Type} (boundary : Boundary σ κ)

/-- The version of the engine, for several callers at once. -/
def readVersions (callers : Nat) (context : Context) :
    Native σ (List (Except Failure String) × Context) := do
  let shared ←
    (SharedValue.ofCallers context.version callers).serve (context.fetchValue boundary .version)
  return (shared.outcomes, { context with version := shared.value })

/-- The install path of the engine, for several callers at once. -/
def readInstallPaths (callers : Nat) (context : Context) :
    Native σ (List (Except Failure String) × Context) := do
  let shared ←
    (SharedValue.ofCallers context.installPath callers).serve
      (context.fetchValue boundary .installPath)
  return (shared.outcomes, { context with installPath := shared.value })

end Context

end SigningEngine
