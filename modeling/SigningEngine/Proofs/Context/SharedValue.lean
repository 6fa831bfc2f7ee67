import SigningEngine.Context.SharedValue
import SigningEngine.Proofs.Run

/-!
# One value that several callers ask for

Callers advance in any order, and a fetch may end in any way. What a step can do is said once, by
`Advances`; everything else is told from there. `Consistent` relates where the callers stand to the
fetches made so far, each with the caller who made it: only the caller with the guard fetches, only
while nothing is kept, and every fetch is accounted for by the caller who made it.

A caller who finds the guard free, or has it, gets through without anybody else.
-/

namespace SigningEngine

namespace Caller

/-- Whether a caller has the guard. -/
def hasGuard : Caller → Bool
  | admitted | fetching | keeping _ | leaving _ => true
  | arrived | waiting | served _ => false

/-- Whether a caller is in progress, neither before its first step nor behind its last. -/
def inProgress : Caller → Bool
  | arrived | served _ => false
  | _ => true

/-- The value that a caller has fetched and not kept yet. -/
def inHand? : Caller → Option String
  | keeping value => some value
  | _ => none

/-- How it ends for a caller, as soon as that is decided. -/
def decided? : Caller → Option (Except Failure String)
  | leaving outcome | served outcome => some outcome
  | _ => none

/-- Whether it is decided that a caller fails. -/
def fails (caller : Caller) : Bool := caller.decided?.any fun outcome => !outcome.isOk

/-- How its own fetches and its outcome go together, by the value that is kept. Only its own failed
fetch is reported to a caller. -/
def Settles (value : Option String) (own : List (Except Failure String)) :
    Except Failure String → Prop
  | .ok kept => value = some kept ∧ (own = [] ∨ own = [.ok kept])
  | .error failure => own = [.error failure]

/-- How the fetches ended that a caller made who stands there, by the value that is kept. -/
def Accounts (value : Option String) (own : List (Except Failure String)) : Caller → Prop
  | arrived | waiting | admitted => own = []
  | fetching => value = none ∧ own = []
  | keeping fetched => value = none ∧ own = [.ok fetched]
  | leaving outcome | served outcome => Settles value own outcome

/-- What is kept later is no matter to a caller who is without the guard. -/
theorem accounts_of_empty {caller : Caller} {own : List (Except Failure String)}
    (h : caller.Accounts none own) (hguard : caller.hasGuard = false) (kept : String) :
    caller.Accounts (some kept) own := by
  match caller, h with
  | .arrived, h => exact h
  | .waiting, h => exact h
  | .served (.ok _), h => cases h.1
  | .served (.error _), h => exact h

theorem Accounts.failed_iff {caller : Caller} {value : Option String}
    {own : List (Except Failure String)} (h : caller.Accounts value own) {failure : Failure} :
    .error failure ∈ own ↔ caller.decided? = some (.error failure) := by
  match caller, h with
  | .arrived, h | .waiting, h | .admitted, h => simp [show own = [] from h, decided?]
  | .fetching, ⟨_, h⟩ => simp [h, decided?]
  | .keeping _, ⟨_, h⟩ => simp [h, decided?]
  | .leaving (.ok _), ⟨_, h⟩ | .served (.ok _), ⟨_, h⟩ => rcases h with h | h <;> simp [h, decided?]
  | .leaving (.error other), h | .served (.error other), h =>
      simp [show own = [.error other] from h, decided?, eq_comm]

theorem Accounts.length_le {caller : Caller} {value : Option String}
    {own : List (Except Failure String)} (h : caller.Accounts value own) : own.length ≤ 1 := by
  match caller, h with
  | .arrived, h | .waiting, h | .admitted, h => simp [show own = [] from h]
  | .fetching, ⟨_, h⟩ => simp [h]
  | .keeping _, ⟨_, h⟩ => simp [h]
  | .leaving (.ok _), ⟨_, h⟩ | .served (.ok _), ⟨_, h⟩ => rcases h with h | h <;> simp [h]
  | .leaving (.error other), h | .served (.error other), h =>
      simp [show own = [.error other] from h]

/-- The most steps that are left to a caller. -/
def remaining : Caller → Nat
  | arrived => SharedValue.stepsOfTurn
  | waiting => 5
  | admitted => 4
  | fetching => 3
  | keeping _ => 2
  | leaving _ => 1
  | served _ => 0

theorem eq_served {caller : Caller} (h : caller.remaining = 0) :
    ∃ outcome, caller = served outcome := by
  cases caller with
  | served outcome => exact ⟨outcome, rfl⟩
  | _ => cases h

theorem remaining_le (caller : Caller) : caller.remaining ≤ SharedValue.stepsOfTurn := by
  cases caller <;> simp [remaining, SharedValue.stepsOfTurn]

end Caller

namespace SharedValue

variable {σ : Type}

/-- What becomes of the caller whose fetch ends. -/
def received (shared : SharedValue) (i : Nat) : Except Failure String → SharedValue
  | .ok value => shared.setCaller i (.keeping value)
  | .error failure => shared.setCaller i (.leaving (.error failure))

/-- A step of caller `i`, with how the fetch ended if the step is one. -/
inductive Advances (i : Nat) (shared : SharedValue) :
    Option (Except Failure String) → SharedValue → Prop where
  | absent (stands : shared.callers[i]? = none) : Advances i shared none shared
  | done {outcome : Except Failure String} (stands : shared.callers[i]? = some (.served outcome)) :
      Advances i shared none shared
  | blocked {j : Nat} (stands : shared.callers[i]? = some .waiting)
      (taken : shared.guard = some j) : Advances i shared none shared
  | served {value : String} (stands : shared.callers[i]? = some .arrived)
      (resolved : shared.value = some value) :
      Advances i shared none (shared.setCaller i (.served (.ok value)))
  | queued (stands : shared.callers[i]? = some .arrived) (empty : shared.value = none) :
      Advances i shared none (shared.setCaller i .waiting)
  | admitted (stands : shared.callers[i]? = some .waiting) (free : shared.guard = none) :
      Advances i shared none { shared.setCaller i .admitted with guard := some i }
  | found {value : String} (stands : shared.callers[i]? = some .admitted)
      (resolved : shared.value = some value) :
      Advances i shared none (shared.setCaller i (.leaving (.ok value)))
  | missed (stands : shared.callers[i]? = some .admitted) (empty : shared.value = none) :
      Advances i shared none (shared.setCaller i .fetching)
  | fetched {outcome : Except Failure String} (stands : shared.callers[i]? = some .fetching) :
      Advances i shared (some outcome) (shared.received i outcome)
  | kept {value : String} (stands : shared.callers[i]? = some (.keeping value)) :
      Advances i shared none
        { shared.setCaller i (.leaving (.ok (shared.value.getD value))) with
          value := some (shared.value.getD value) }
  | left {outcome : Except Failure String}
      (stands : shared.callers[i]? = some (.leaving outcome)) :
      Advances i shared none { shared.setCaller i (.served outcome) with guard := none }

/-- Whether the next step of caller `i` is a fetch. -/
def asks (shared : SharedValue) (i : Nat) : Bool :=
  match shared.callers[i]? with
  | some .fetching => true
  | _ => false

theorem asks_iff {shared : SharedValue} {i : Nat} :
    shared.asks i = true ↔ shared.callers[i]? = some .fetching := by
  rw [asks]
  split
  next hcaller => simp [hcaller]
  next hcaller => simpa using hcaller

/-- A fetch is all that a step does about the surroundings. -/
theorem advance_of_asks {shared : SharedValue} {i : Nat} (h : shared.asks i = true)
    (fetch : Attempt σ String) (run : Run σ) :
    shared.advance fetch i run =
      (shared.received i (fetch.outcome run).1, (fetch.outcome run).2) := by
  rw [advance_eq fetch (asks_iff.mp h), advanceFrom, stateM_bind]
  cases (fetch.outcome run).1 <;> rfl

/-- A step that is no fetch does nothing about the surroundings and does not depend on them. -/
theorem advance_of_not_asks {shared : SharedValue} {i : Nat} (h : shared.asks i = false) :
    ∃ next, shared.Advances i none next ∧
      ∀ {σ : Type} (fetch : Attempt σ String) (run : Run σ),
        shared.advance fetch i run = (next, run) := by
  cases hcaller : shared.callers[i]? with
  | none => exact ⟨_, .absent hcaller, fun fetch run => by rw [advance, hcaller]; rfl⟩
  | some caller =>
      simp only [advance_eq _ hcaller]
      cases caller with
      | arrived =>
          cases hvalue : shared.value with
          | none => exact ⟨_, .queued hcaller hvalue, fun _ run => by rw [advanceFrom, hvalue]; rfl⟩
          | some value =>
              exact ⟨_, .served hcaller hvalue, fun _ run => by rw [advanceFrom, hvalue]; rfl⟩
      | waiting =>
          cases hguard : shared.guard with
          | none =>
              exact ⟨_, .admitted hcaller hguard, fun _ run => by rw [advanceFrom, hguard]; rfl⟩
          | some j =>
              exact ⟨_, .blocked hcaller hguard, fun _ run => by rw [advanceFrom, hguard]; rfl⟩
      | admitted =>
          cases hvalue : shared.value with
          | none => exact ⟨_, .missed hcaller hvalue, fun _ run => by rw [advanceFrom, hvalue]; rfl⟩
          | some value =>
              exact ⟨_, .found hcaller hvalue, fun _ run => by rw [advanceFrom, hvalue]; rfl⟩
      | fetching => rw [asks_iff.mpr hcaller] at h; cases h
      | keeping value => exact ⟨_, .kept hcaller, fun _ run => rfl⟩
      | leaving outcome => exact ⟨_, .left hcaller, fun _ run => rfl⟩
      | served outcome => exact ⟨_, .done hcaller, fun _ run => rfl⟩

/-- How the fetch ended that the next step of caller `i` is, if it is one. -/
def fetchOf (shared : SharedValue) (i : Nat) (outcome : Except Failure String) :
    Option (Except Failure String) :=
  if shared.asks i then some outcome else none

/-- A step is one of those that a caller can take. -/
theorem advance_advances (fetch : Attempt σ String) (shared : SharedValue) (i : Nat)
    (run : Run σ) :
    shared.Advances i (shared.fetchOf i (fetch.outcome run).1) (shared.advance fetch i run).1 := by
  cases hasks : shared.asks i with
  | true =>
      rw [fetchOf, hasks, advance_of_asks hasks]
      exact .fetched (asks_iff.mp hasks)
  | false =>
      obtain ⟨next, hnext, hadvance⟩ := advance_of_not_asks hasks
      rw [fetchOf, hasks, hadvance]
      exact hnext

theorem advance_run (fetch : Attempt σ String) (shared : SharedValue) (i : Nat) (run : Run σ) :
    (shared.advance fetch i run).2 = if shared.asks i then (fetch.outcome run).2 else run := by
  cases hasks : shared.asks i with
  | true => rw [advance_of_asks hasks]; rfl
  | false =>
      obtain ⟨next, -, hadvance⟩ := advance_of_not_asks hasks
      rw [hadvance]
      rfl

/-! ### The invariant -/

/-- The fetches of one caller. -/
def ownFetches (i : Nat) (fetches : List (Nat × Except Failure String)) :
    List (Except Failure String) :=
  fetches.filterMap fun fetch => if fetch.1 = i then some fetch.2 else none

/-- The values that were fetched. -/
def successes (fetches : List (Nat × Except Failure String)) : List String :=
  fetches.filterMap fun fetch => fetch.2.toOption

/-- The number of fetches that failed. -/
def failures (fetches : List (Nat × Except Failure String)) : Nat :=
  fetches.countP fun fetch => !fetch.2.isOk

/-- The value that is kept, or that the caller with the guard is about to keep. -/
def obtained (shared : SharedValue) : Option String :=
  shared.value <|> (shared.guard.bind fun i => shared.callers[i]?).bind Caller.inHand?

/-- The guard is with the one caller that has it. -/
def Guarded (shared : SharedValue) : Prop :=
  ∀ i, shared.guard = some i ↔ ∃ caller, shared.callers[i]? = some caller ∧ caller.hasGuard = true

/-- The fetches made so far, and where the callers stand. -/
structure Consistent (fetches : List (Nat × Except Failure String)) (shared : SharedValue) :
    Prop where
  guarded : shared.Guarded
  accounts : ∀ i (caller : Caller), shared.callers[i]? = some caller →
    caller.Accounts shared.value (ownFetches i fetches)
  present : ∀ fetch ∈ fetches, fetch.1 < shared.callers.length
  successes : successes fetches = shared.obtained.toList
  failures : failures fetches = shared.callers.countP Caller.fails

theorem ownFetches_append (i j : Nat) (fetches : List (Nat × Except Failure String))
    (made : Option (Except Failure String)) :
    ownFetches j (fetches ++ made.toList.map (i, ·)) =
      ownFetches j fetches ++ if i = j then made.toList else [] := by
  cases made with
  | none => simp [ownFetches]
  | some outcome =>
      simp only [ownFetches, List.filterMap_append]
      split <;> simp [*]

theorem countP_set {callers : List Caller} {i : Nat} {old : Caller} (new : Caller)
    (h : callers[i]? = some old) :
    (callers.set i new).countP Caller.fails + old.fails.toNat =
      callers.countP Caller.fails + new.fails.toNat := by
  induction callers generalizing i with
  | nil => cases h
  | cons caller callers ih =>
      cases i with
      | zero =>
          cases h
          simp only [List.set_cons_zero, List.countP_cons]
          cases old.fails <;> cases new.fails <;> simp
      | succ i =>
          have := ih h
          simp only [List.set_cons_succ, List.countP_cons]
          omega

section Update

variable {fetches : List (Nat × Except Failure String)} {shared : SharedValue}
variable {i : Nat} {old new : Caller}

theorem getElem?_set_of_some (h : shared.callers[i]? = some old) (new : Caller) (j : Nat) :
    (shared.callers.set i new)[j]? = if i = j then some new else shared.callers[j]? := by
  obtain ⟨hi, -⟩ := List.getElem?_eq_some_iff.1 h
  rw [List.getElem?_set]
  simp [hi]

/-- The guard stays where it is. -/
theorem Guarded.stays (h : shared.Guarded) (hold : shared.callers[i]? = some old)
    (hnew : new.hasGuard = old.hasGuard) : (shared.setCaller i new).Guarded := by
  intro j
  simp only [setCaller, getElem?_set_of_some hold]
  split
  next hij =>
    subst hij
    rw [h i, hold]
    simp [hnew]
  next => exact h j

/-- A caller takes the free guard. -/
theorem Guarded.taken (h : shared.Guarded) (hold : shared.callers[i]? = some old)
    (free : shared.guard = none) (hnew : new.hasGuard = true) :
    Guarded { shared.setCaller i new with guard := some i } := by
  intro j
  simp only [setCaller, getElem?_set_of_some hold]
  split
  next hij => simp [hij, hnew]
  next hij =>
    rw [← h j, free]
    simp [hij]

/-- The caller with the guard gives it back. -/
theorem Guarded.given (h : shared.Guarded) (hold : shared.callers[i]? = some old)
    (holds : old.hasGuard = true) (hnew : new.hasGuard = false) :
    Guarded { shared.setCaller i new with guard := none } := by
  intro j
  simp only [setCaller, getElem?_set_of_some hold]
  split
  next hij => simp [hnew]
  next hij =>
    have hguard : shared.guard = some i := (h i).mpr ⟨old, hold, holds⟩
    rw [← h j, hguard]
    simp [hij]

theorem Guarded.guard_eq (h : shared.Guarded) (hold : shared.callers[i]? = some old)
    (holds : old.hasGuard = true) : shared.guard = some i :=
  (h i).mpr ⟨old, hold, holds⟩

/-- Only a caller with the guard can have a value in hand. -/
theorem obtained_setCaller (h : shared.Guarded) (hold : shared.callers[i]? = some old)
    (hguard : old.hasGuard = false) (new : Caller) :
    (shared.setCaller i new).obtained = shared.obtained := by
  have hother : ∀ j, shared.guard = some j → i ≠ j := by
    rintro j hj rfl
    obtain ⟨caller, hcaller, holds⟩ := (h i).mp hj
    rw [hold, Option.some.injEq] at hcaller
    rw [hcaller, holds] at hguard
    cases hguard
  simp only [obtained, setCaller, getElem?_set_of_some hold]
  cases hj : shared.guard with
  | none => rfl
  | some j => simp [hother j hj]

theorem obtained_of_guard (hold : shared.callers[i]? = some old) (hguard : shared.guard = some i) :
    shared.obtained = (shared.value <|> old.inHand?) := by
  simp [obtained, hguard, hold]

/-- The value that is kept, or in the hand of the caller who moved on with the guard. -/
theorem obtained_set (hold : shared.callers[i]? = some old) (new : Caller)
    (value : Option String) :
    (SharedValue.mk value (some i) (shared.callers.set i new)).obtained =
      (value <|> new.inHand?) :=
  obtained_of_guard (by rw [getElem?_set_of_some hold, if_pos rfl]) rfl

/-- A caller that moves on keeps the whole consistent, if what it did is accounted for. -/
theorem Consistent.update (h : Consistent fetches shared) (hold : shared.callers[i]? = some old)
    (made : Option (Except Failure String)) {next : SharedValue}
    (hcallers : next.callers = shared.callers.set i new) (hguarded : next.Guarded)
    (hothers : ∀ j caller own, i ≠ j → shared.callers[j]? = some caller →
      caller.Accounts shared.value own → caller.Accounts next.value own)
    (hnew : new.Accounts next.value (ownFetches i fetches ++ made.toList))
    (hsuccesses : next.obtained.toList =
      shared.obtained.toList ++ (made.bind Except.toOption).toList)
    (hfailures : new.fails.toNat = old.fails.toNat + (made.any fun outcome => !outcome.isOk).toNat) :
    Consistent (fetches ++ made.toList.map (i, ·)) next where
  guarded := hguarded
  accounts j caller hcaller := by
    rw [hcallers, getElem?_set_of_some hold] at hcaller
    rw [ownFetches_append]
    split at hcaller
    next hij =>
      cases hcaller
      rw [if_pos hij, ← hij]
      exact hnew
    next hij =>
      rw [if_neg hij, List.append_nil]
      exact hothers j caller _ hij hcaller (h.accounts j caller hcaller)
  present fetch hfetch := by
    rw [hcallers, List.length_set]
    rcases List.mem_append.mp hfetch with hbefore | hmade
    · exact h.present fetch hbefore
    · obtain ⟨outcome, -, rfl⟩ := List.mem_map.mp hmade
      exact (List.getElem?_eq_some_iff.mp hold).1
  successes := by
    rw [hsuccesses, ← h.successes, SharedValue.successes, List.filterMap_append]
    cases made with
    | none => rfl
    | some outcome => cases outcome <;> rfl
  failures := by
    have hset := countP_set new hold
    rw [hcallers, SharedValue.failures, List.countP_append]
    have hbefore := h.failures
    rw [SharedValue.failures] at hbefore
    cases made with
    | none =>
        simp only [Option.any_none, Bool.toNat_false] at hfailures
        simp only [Option.toList_none, List.map_nil, List.countP_nil]
        omega
    | some outcome =>
        simp only [Option.any_some] at hfailures
        simp only [Option.toList_some, List.map_cons, List.map_nil, List.countP_cons,
          List.countP_nil]
        cases houtcome : outcome.isOk <;> simp [houtcome] at hfailures ⊢ <;> omega

/-- A caller moves on without a fetch, while the guard and the value stay. -/
theorem Consistent.set (h : Consistent fetches shared) (hold : shared.callers[i]? = some old)
    (new : Caller) (hguard : new.hasGuard = old.hasGuard)
    (hnew : new.Accounts shared.value (ownFetches i fetches))
    (hhand : new.inHand? = old.inHand?) (hfails : new.fails = old.fails) :
    Consistent fetches (shared.setCaller i new) := by
  have hobtained : (shared.setCaller i new).obtained = shared.obtained := by
    cases holds : old.hasGuard with
    | false => exact obtained_setCaller h.guarded hold holds new
    | true =>
        have hfound := h.guarded.guard_eq hold holds
        rw [obtained_of_guard hold hfound, ← hhand, setCaller, hfound]
        exact obtained_set hold new shared.value
  simpa using h.update hold none rfl (h.guarded.stays hold hguard) (fun _ _ _ _ _ => id)
    (by simpa [setCaller] using hnew) (by simp [hobtained]) (by simp [hfails])

/-- What every step keeps. -/
theorem Consistent.step {made : Option (Except Failure String)} {next : SharedValue}
    (h : Consistent fetches shared) (hstep : shared.Advances i made next) :
    Consistent (fetches ++ made.toList.map (i, ·)) next := by
  cases hstep with
  | absent | done | blocked => simpa using h
  | @served value stands resolved =>
      have hown := h.accounts i _ stands
      simpa using h.set stands (.served (.ok value)) rfl ⟨resolved, .inl hown⟩ rfl rfl
  | queued stands empty =>
      have hown := h.accounts i _ stands
      simpa using h.set stands .waiting rfl hown rfl rfl
  | admitted stands free =>
      have hown := h.accounts i _ stands
      refine h.update stands none rfl (h.guarded.taken stands free rfl) (fun _ _ _ _ _ => id)
        (by simpa [Caller.Accounts] using hown) ?_ rfl
      rw [setCaller, obtained_set stands, obtained, free]
      simp [Caller.inHand?]
  | @found value stands resolved =>
      have hown := h.accounts i _ stands
      simpa using h.set stands (.leaving (.ok value)) rfl ⟨resolved, .inl hown⟩ rfl rfl
  | missed stands empty =>
      have hown := h.accounts i _ stands
      simpa using h.set stands .fetching rfl ⟨empty, hown⟩ rfl rfl
  | @fetched outcome stands =>
      obtain ⟨empty, hown⟩ := h.accounts i _ stands
      have hguard := h.guarded.guard_eq stands rfl
      have hobtained := obtained_of_guard stands hguard
      cases outcome with
      | ok value =>
          refine h.update stands _ rfl (h.guarded.stays stands rfl) (fun _ _ _ _ _ => id)
            ⟨empty, by rw [hown]; rfl⟩ ?_ rfl
          rw [received, setCaller, hguard, obtained_set stands, hobtained, empty]
          rfl
      | error failure =>
          refine h.update stands _ rfl (h.guarded.stays stands rfl) (fun _ _ _ _ _ => id)
            (by rw [hown]; exact rfl) ?_ rfl
          rw [received, setCaller, hguard, obtained_set stands, hobtained, empty]
          rfl
  | @kept value stands =>
      obtain ⟨empty, hown⟩ := h.accounts i _ stands
      have hguard := h.guarded.guard_eq stands rfl
      have hobtained := obtained_of_guard stands hguard
      simp only [empty, Option.getD_none]
      refine h.update stands none rfl (h.guarded.stays stands rfl) ?_ ?_ ?_ rfl
      · intro j caller own hij hcaller haccounts
        refine Caller.accounts_of_empty (empty ▸ haccounts) ?_ value
        cases holds : caller.hasGuard with
        | false => rfl
        | true =>
            have hother := h.guarded.guard_eq hcaller holds
            rw [hguard, Option.some.injEq] at hother
            exact absurd hother hij
      · exact ⟨rfl, .inr (by simp [hown])⟩
      · rw [hobtained, empty]
        rfl
  | left stands =>
      have hown := h.accounts i _ stands
      have hguard := h.guarded.guard_eq stands rfl
      have hobtained := obtained_of_guard stands hguard
      refine h.update stands none rfl (h.guarded.given stands rfl rfl) (fun _ _ _ _ _ => id)
        (by simpa [Caller.Accounts, setCaller] using hown) ?_ rfl
      rw [hobtained]
      simp [obtained, setCaller, Caller.inHand?]

end Update

/-! ### What follows for the callers -/

theorem consistent_ofCallers (callers : Nat) : Consistent [] (ofCallers none callers) where
  guarded i := by
    have hnone : ∀ caller, (ofCallers none callers).callers[i]? = some caller →
        caller = .arrived := by
      intro caller hcaller
      exact (List.mem_replicate.mp (List.mem_of_getElem? hcaller)).2
    constructor
    · intro h
      cases h
    · rintro ⟨caller, hcaller, holds⟩
      rw [hnone caller hcaller] at holds
      cases holds
  accounts i caller hcaller := by
    rw [(List.mem_replicate.mp (List.mem_of_getElem? hcaller)).2]
    rfl
  present fetch hfetch := by cases hfetch
  successes := rfl
  failures := by
    simp [failures, ofCallers, List.countP_replicate, Caller.fails, Caller.decided?]

section Consequences

variable {fetches : List (Nat × Except Failure String)} {shared next : SharedValue} {i : Nat}
variable {made : Option (Except Failure String)}

/-- A value that is kept stays, and nobody fetches any more. -/
theorem Consistent.resolved (h : Consistent fetches shared) {value : String}
    (hvalue : shared.value = some value) (hstep : shared.Advances i made next) :
    made = none ∧ next.value = some value := by
  cases hstep with
  | fetched stands =>
      obtain ⟨empty, -⟩ := h.accounts i _ stands
      rw [hvalue] at empty
      cases empty
  | kept stands =>
      obtain ⟨empty, -⟩ := h.accounts i _ stands
      rw [hvalue] at empty
      cases empty
  | _ => exact ⟨rfl, hvalue⟩

/-- A failed fetch keeps nothing. -/
theorem Advances.value_of_failed {failure : Failure}
    (hstep : shared.Advances i (some (.error failure)) next) : next.value = shared.value := by
  cases hstep
  rfl

/-- What the callers get, by the fetches made. -/
structure FetchedOnce (fetches : List (Nat × Except Failure String)) (shared : SharedValue) :
    Prop where
  /-- At most one fetch succeeds. -/
  once : (successes fetches).length ≤ 1
  /-- Whoever gets a value gets the one that was fetched. -/
  agreed : ∀ (i : Nat) value, shared.callers[i]? = some (.served (.ok value)) → successes fetches = [value]
  /-- Nobody fetches twice. -/
  single : ∀ i, (ownFetches i fetches).length ≤ 1
  /-- A failure is that of the caller who made the fetch, and of nobody else. -/
  reported : ∀ i failure, (i, .error failure) ∈ fetches ↔
    ∃ caller, shared.callers[i]? = some caller ∧ caller.decided? = some (.error failure)
  /-- Only what was fetched is kept. -/
  published : ∀ value, shared.value = some value → successes fetches = [value]
  /-- With nobody in progress, each fetch either failed a caller or is the one whose value is
  kept. -/
  counted : (∀ caller ∈ shared.callers, caller.inProgress = false) →
    fetches.length =
      shared.outcomes.countP (fun outcome => !outcome.isOk) + shared.value.isSome.toNat

theorem mem_ownFetches {outcome : Except Failure String} :
    outcome ∈ ownFetches i fetches ↔ (i, outcome) ∈ fetches := by
  simp [ownFetches]

theorem Consistent.published (h : Consistent fetches shared) {value : String}
    (hvalue : shared.value = some value) : SharedValue.successes fetches = [value] := by
  rw [h.successes, obtained, hvalue]
  rfl

theorem Consistent.reported (h : Consistent fetches shared) (i : Nat) (failure : Failure) :
    (i, .error failure) ∈ fetches ↔
      ∃ caller, shared.callers[i]? = some caller ∧ caller.decided? = some (.error failure) := by
  constructor
  · intro hfetch
    have hi := h.present _ hfetch
    have hcaller := List.getElem?_eq_getElem hi
    exact ⟨_, hcaller, (h.accounts i _ hcaller).failed_iff.mp (mem_ownFetches.mpr hfetch)⟩
  · rintro ⟨caller, hcaller, hdecided⟩
    exact mem_ownFetches.mp ((h.accounts i caller hcaller).failed_iff.mpr hdecided)

theorem Consistent.single (h : Consistent fetches shared) (i : Nat) :
    (ownFetches i fetches).length ≤ 1 := by
  by_cases hi : i < shared.callers.length
  · exact (h.accounts i _ (List.getElem?_eq_getElem hi)).length_le
  · have hnone : ownFetches i fetches = [] := by
      rw [List.eq_nil_iff_forall_not_mem]
      intro outcome houtcome
      exact hi (h.present _ (mem_ownFetches.mp houtcome))
    rw [hnone]
    exact Nat.zero_le 1

/-- A fetch either succeeds or fails. -/
theorem length_eq_add (fetches : List (Nat × Except Failure String)) :
    fetches.length = failures fetches + (successes fetches).length := by
  induction fetches with
  | nil => rfl
  | cons fetch fetches ih =>
      obtain ⟨i, outcome⟩ := fetch
      simp only [failures, successes] at ih ⊢
      cases outcome <;> simp [Except.isOk, Except.toBool, Except.toOption, ih] <;> omega

/-- Nobody has the guard if nobody is in progress. -/
theorem Guarded.free (h : shared.Guarded)
    (hidle : ∀ caller ∈ shared.callers, caller.inProgress = false) : shared.guard = none := by
  cases hguard : shared.guard with
  | none => rfl
  | some i =>
      obtain ⟨caller, hcaller, holds⟩ := (h i).mp hguard
      have := hidle caller (List.mem_of_getElem? hcaller)
      cases caller <;> simp_all [Caller.hasGuard, Caller.inProgress]

theorem Consistent.counted (h : Consistent fetches shared)
    (hidle : ∀ caller ∈ shared.callers, caller.inProgress = false) :
    fetches.length =
      shared.outcomes.countP (fun outcome => !outcome.isOk) + shared.value.isSome.toNat := by
  have hobtained : shared.obtained = shared.value := by
    simp [obtained, h.guarded.free hidle]
  have hfails : shared.callers.countP Caller.fails =
      shared.outcomes.countP fun outcome => !outcome.isOk := by
    rw [outcomes, List.countP_filterMap]
    refine List.countP_congr fun caller hcaller => ?_
    have := hidle caller hcaller
    cases caller <;> simp_all [Caller.inProgress, Caller.fails, Caller.decided?, Caller.outcome?]
  rw [length_eq_add, h.failures, h.successes, hobtained, hfails]
  cases shared.value <;> rfl

theorem Consistent.fetchedOnce (h : Consistent fetches shared) : FetchedOnce fetches shared where
  once := by
    rw [h.successes]
    cases shared.obtained <;> simp
  agreed i value hcaller := by
    obtain ⟨hvalue, -⟩ := h.accounts i _ hcaller
    exact h.published hvalue
  single := h.single
  reported := h.reported
  published _ := h.published
  counted := h.counted

end Consequences

/-! ### Getting through -/

theorem run_cons (fetch : Attempt σ String) (i : Nat) (rest : List Nat) (shared : SharedValue)
    (run : Run σ) :
    shared.run fetch (i :: rest) run =
      (shared.advance fetch i run).1.run fetch rest (shared.advance fetch i run).2 := rfl

theorem run_append_run (fetch : Attempt σ String) (first second : List Nat) (shared : SharedValue)
    (run : Run σ) :
    shared.run fetch (first ++ second) run =
      (shared.run fetch first run).1.run fetch second (shared.run fetch first run).2 := by
  rw [run_append]
  rfl

section Progress

variable {fetches : List (Nat × Except Failure String)} {shared next : SharedValue} {i : Nat}
variable {made : Option (Except Failure String)} {caller : Caller}

/-- Nobody else has the guard. -/
def Unblocked (shared : SharedValue) (i : Nat) : Prop :=
  shared.guard = none ∨ shared.guard = some i

theorem Advances.length (hstep : shared.Advances i made next) :
    next.callers.length = shared.callers.length := by
  cases hstep with
  | @fetched outcome _ => cases outcome <;> simp [received, setCaller]
  | _ => simp [setCaller]

theorem Advances.unblocked (hstep : shared.Advances i made next) (h : shared.Unblocked i) :
    next.Unblocked i := by
  cases hstep with
  | admitted => exact .inr rfl
  | left => exact .inl rfl
  | @fetched outcome _ => cases outcome <;> exact h
  | _ => exact h

/-- A caller who is not kept waiting gets on with every step. -/
theorem Advances.remaining (hstep : shared.Advances i made next) (hguarded : shared.Guarded)
    (hfree : shared.Unblocked i) (hcaller : shared.callers[i]? = some caller) :
    ∃ later, next.callers[i]? = some later ∧ later.remaining ≤ caller.remaining - 1 := by
  cases hstep with
  | absent stands =>
      rw [stands] at hcaller
      cases hcaller
  | done stands =>
      refine ⟨caller, hcaller, ?_⟩
      rw [stands] at hcaller
      cases hcaller
      exact Nat.le_refl 0
  | blocked stands taken =>
      have hguard : shared.guard = some i := by
        rcases hfree with hnone | hsome
        · rw [taken] at hnone
          cases hnone
        · exact hsome
      obtain ⟨holder, hholder, holds⟩ := (hguarded i).mp hguard
      rw [stands] at hholder
      cases hholder
      cases holds
  | @fetched outcome stands =>
      cases stands.symm.trans hcaller
      cases outcome
      · exact ⟨_, by rw [received, setCaller, getElem?_set_of_some stands, if_pos rfl],
          by simp [Caller.remaining]⟩
      · exact ⟨_, by rw [received, setCaller, getElem?_set_of_some stands, if_pos rfl],
          by simp [Caller.remaining]⟩
  | served stands | queued stands | admitted stands | found stands | missed stands | kept stands
  | left stands =>
      cases stands.symm.trans hcaller
      exact ⟨_, by rw [setCaller, getElem?_set_of_some stands, if_pos rfl],
        by simp [Caller.remaining, stepsOfTurn]⟩

/-- What a caller who is not kept waiting comes to within some steps. -/
theorem Consistent.steps (fetch : Attempt σ String) (steps : Nat) (run : Run σ)
    (h : Consistent fetches shared) (hfree : shared.Unblocked i)
    (hcaller : shared.callers[i]? = some caller) :
    let after := (shared.run fetch (List.replicate steps i) run).1
    (∃ fetches, Consistent fetches after) ∧ after.callers.length = shared.callers.length ∧
      after.Unblocked i ∧
        ∃ later, after.callers[i]? = some later ∧ later.remaining ≤ caller.remaining - steps := by
  induction steps generalizing fetches shared caller run with
  | zero => exact ⟨⟨fetches, h⟩, rfl, hfree, caller, hcaller, Nat.le_refl _⟩
  | succ steps ih =>
      have hstep := shared.advance_advances fetch i run
      obtain ⟨middle, hmiddle, hremaining⟩ := hstep.remaining h.guarded hfree hcaller
      obtain ⟨hconsistent, hlength, hunblocked, later, hlater, hle⟩ :=
        ih (shared.advance fetch i run).2 (h.step hstep) (hstep.unblocked hfree) hmiddle
      rw [List.replicate_succ, run_cons]
      exact ⟨hconsistent, hlength.trans hstep.length, hunblocked, later, hlater, by omega⟩

/-- A caller who is not kept waiting gets through in one turn, and then nobody has the guard. -/
theorem Consistent.one_turn (fetch : Attempt σ String) (run : Run σ) (h : Consistent fetches shared)
    (hfree : shared.Unblocked i) (hi : i < shared.callers.length) :
    let after := (shared.run fetch (turn i) run).1
    (∃ fetches, Consistent fetches after) ∧ after.callers.length = shared.callers.length ∧
      after.guard = none ∧ ∃ outcome, after.callers[i]? = some (.served outcome) := by
  obtain ⟨⟨later, hlater⟩, hlength, hunblocked, caller, hcaller, hle⟩ :=
    h.steps fetch stepsOfTurn run hfree (List.getElem?_eq_getElem hi)
  have hbound := shared.callers[i].remaining_le
  obtain ⟨outcome, rfl⟩ := Caller.eq_served (by omega : caller.remaining = 0)
  refine ⟨⟨later, hlater⟩, hlength, ?_, outcome, hcaller⟩
  rcases hunblocked with hnone | hsome
  · exact hnone
  · obtain ⟨holder, hholder, holds⟩ := (hlater.guarded i).mp hsome
    rw [hcaller] at hholder
    cases hholder
    cases holds

/-- Every caller gets through, however far the others are: if another one has the guard, that one
gets through first. -/
theorem Consistent.gets_through (fetch : Attempt σ String) (run : Run σ)
    (h : Consistent fetches shared) (hi : i < shared.callers.length) :
    ∃ schedule outcome,
      (shared.run fetch schedule run).1.callers[i]? = some (.served outcome) := by
  cases hguard : shared.guard with
  | none =>
      obtain ⟨-, -, -, outcome, houtcome⟩ := h.one_turn fetch run (.inl hguard) hi
      exact ⟨turn i, outcome, houtcome⟩
  | some j =>
      obtain ⟨holder, hholder, -⟩ := (h.guarded j).mp hguard
      obtain ⟨hj, -⟩ := List.getElem?_eq_some_iff.mp hholder
      obtain ⟨⟨fetches, hlater⟩, hlength, hfree, -⟩ := h.one_turn fetch run (.inr hguard) hj
      obtain ⟨-, -, -, outcome, houtcome⟩ :=
        hlater.one_turn fetch (shared.run fetch (turn j) run).2 (.inl hfree) (hlength ▸ hi)
      refine ⟨turn j ++ turn i, outcome, ?_⟩
      rw [run_append_run]
      exact houtcome

end Progress

end SharedValue

end SigningEngine
