import SigningEngine.Proofs.Holdings.Run

/-!
# The lifetimes of digests

What the engine gave for an owner is freed by the drop of the owner, by nothing else and not again.
Where the engine gave nothing usable, there is no owner, and nothing is ever freed for it. A place
that is empty stays empty, so what happens at a place is one lifetime.

The main statement is `run_lifetimes`.
-/

namespace SigningEngine

namespace NativeCall

/-- Whether a call frees a digest. -/
def frees : NativeCall → Bool
  | digestFree _ _ => true
  | _ => false

end NativeCall

theorem Owner.WorksOn.frees {digest : Digest} {call : NativeCall} (h : Owner.WorksOn digest call) :
    call.frees = false := by
  cases h <;> rfl

namespace Holdings

variable {σ κ : Type}

theorem AboutContext.frees {call : NativeCall} (h : AboutContext call) : call.frees = false := by
  cases h <;> rfl

namespace Transition

/-- Whether a transition drops the owner at a place. -/
def drops (transition : Transition σ κ) (place : ℕ) : Bool :=
  match transition.step with
  | .act (.drop other) => other = place
  | _ => false

/-- The calls of a transition that free digests. -/
def freeCalls (transition : Transition σ κ) : List NativeCall :=
  transition.calls.filter NativeCall.frees

/-- A place that is there stays, and only transitions about it change what is at it. -/
theorem Can.owner?_of_ne {transition : Transition σ κ} (can : transition.Can) {place : ℕ}
    (hlt : place < transition.before.owners.length) (hother : transition.place? ≠ some place) :
    transition.after.owner? place = transition.before.owner? place := by
  cases can with
  | apart apart => exact apart.owner? place
  | refused step found crossings unusable outcome after =>
      rw [after, owner?_withOwner_of_ne _ (Nat.ne_of_lt hlt)]
  | created step found crossings outcome valid made named after =>
      rw [after, owner?_withOwner_of_ne _ (Nat.ne_of_lt hlt)]
  | used step found calls owned after =>
      rw [Transition.place?, step] at hother
      rw [after, owner?_put_of_ne]
      exact fun hsame => hother (congrArg some hsame.symm)
  | dropped step found crossings after =>
      rw [Transition.place?, step] at hother
      rw [after, owner?_put_of_ne]
      exact fun hsame => hother (congrArg some hsame.symm)

theorem Can.length_le {transition : Transition σ κ} (can : transition.Can) :
    transition.before.owners.length ≤ transition.after.owners.length := by
  cases can with
  | apart apart => exact Nat.le_of_eq (congrArg List.length apart.owners.symm)
  | refused step found crossings unusable outcome after => simp [after, withOwner]
  | created step found crossings outcome valid made named after => simp [after, withOwner]
  | used step found calls owned after => simp [after]
  | dropped step found crossings after => simp [after]

/-- Only a drop frees a digest, and it frees the one that was owned. -/
theorem Can.of_frees {transition : Transition σ κ} (can : transition.Can) {call : NativeCall}
    (hcall : call ∈ transition.calls) (hfrees : call.frees = true) :
    ∃ place held, transition.step = .act (.drop place) ∧
      transition.before.owner? place = some held ∧
      transition.calls = [held.owner.owned.freeCall] := by
  cases can with
  | apart apart =>
      rw [(apart.aboutContext call hcall).frees] at hfrees
      cases hfrees
  | refused step found crossings unusable outcome after =>
      rw [calls_of_asked crossings, List.mem_singleton] at hcall
      rw [hcall] at hfrees
      cases hfrees
  | created step found crossings outcome valid made named after =>
      rw [calls_of_asked crossings, List.mem_singleton] at hcall
      rw [hcall] at hfrees
      cases hfrees
  | used step found calls owned after =>
      rw [(calls call hcall).frees] at hfrees
      cases hfrees
  | dropped step found crossings after =>
      exact ⟨_, _, step, found, calls_of_asked crossings⟩

theorem place?_of_drops {transition : Transition σ κ} {place : ℕ}
    (h : transition.drops place = true) : transition.place? = some place := by
  rw [drops] at h
  rw [place?]
  split at h
  next other hstep =>
    rw [hstep]
    exact congrArg some (of_decide_eq_true h)
  next => cases h

/-- An empty place stays empty, and nothing crosses at it. -/
theorem Can.of_absent {transition : Transition σ κ} (can : transition.Can) {place : ℕ}
    (hplace : place < transition.before.owners.length)
    (habsent : transition.before.owner? place = none) :
    (transition.place? = some place → transition.crossings = []) ∧
      transition.after.owner? place = none := by
  by_cases hother : transition.place? = some place
  · cases can with
    | apart apart =>
        exact ⟨apart.crossings_of_place, (apart.owner? place).trans habsent⟩
    | refused step found crossings unusable outcome after =>
        rw [place?, step] at hother
        cases hother
        exact absurd hplace (Nat.lt_irrefl _)
    | created step found crossings outcome valid made named after =>
        rw [place?, step] at hother
        cases hother
        exact absurd hplace (Nat.lt_irrefl _)
    | used step found calls owned after =>
        rw [place?, step] at hother
        cases hother
        rw [habsent] at found
        cases found
    | dropped step found crossings after =>
        rw [place?, step] at hother
        cases hother
        rw [habsent] at found
        cases found
  · exact ⟨fun hsame => absurd hsame hother, (can.owner?_of_ne hplace hother).trans habsent⟩

/-- What a transition at the place of an owner is: it drops the owner and frees its digest, or it
frees nothing and leaves an owner of the same digest. -/
theorem Can.of_owner {transition : Transition σ κ} (can : transition.Can) {place : ℕ}
    {held : Held κ} (hheld : transition.before.owner? place = some held)
    (hplace : transition.place? = some place) :
    (transition.drops place = true ∧ transition.freeCalls = [held.owner.owned.freeCall] ∧
        transition.after.owner? place = none) ∨
      (transition.drops place = false ∧ transition.freeCalls = [] ∧
        ∃ later, transition.after.owner? place = some later ∧
          later.owner.owned = held.owner.owned) := by
  cases can with
  | apart apart =>
      rw [apart.absent hplace] at hheld
      cases hheld
  | refused step found crossings unusable outcome after =>
      rw [place?, step] at hplace
      cases hplace
      rw [owner?_length] at hheld
      cases hheld
  | created step found crossings outcome valid made named after =>
      rw [place?, step] at hplace
      cases hplace
      rw [owner?_length] at hheld
      cases hheld
  | used step found calls owned after =>
      rw [place?, step] at hplace
      cases hplace
      rw [hheld] at found
      cases found
      right
      refine ⟨by rw [drops, step], ?_, ?_⟩
      · rw [freeCalls, List.filter_eq_nil_iff]
        intro call hcall
        rw [(calls call hcall).frees]
        exact Bool.false_ne_true
      · rw [after, owner?_put_self _ hheld]
        exact ⟨_, rfl, owned⟩
  | dropped step found crossings after =>
      rw [place?, step] at hplace
      cases hplace
      rw [hheld] at found
      cases found
      left
      refine ⟨?_, ?_, ?_⟩
      · rw [drops, step]
        exact decide_eq_true rfl
      · rw [freeCalls, calls_of_asked crossings]
        rfl
      · rw [after, owner?_put_self _ hheld]

theorem Can.freeCalls_of_absent {transition : Transition σ κ} (can : transition.Can) {place : ℕ}
    (habsent : transition.before.owner? place = none)
    (hplace : transition.place? = some place) : transition.freeCalls = [] := by
  rw [freeCalls, List.filter_eq_nil_iff]
  intro call hcall hfrees
  obtain ⟨other, held, hstep, hheld, -⟩ := can.of_frees hcall hfrees
  rw [place?, hstep] at hplace
  cases hplace
  rw [habsent] at hheld
  cases hheld

end Transition

/-- The calls that free digests among those of the transitions about a place. -/
def freesAt (place : ℕ) (transitions : List (Transition σ κ)) : List NativeCall :=
  (transitions.filter fun transition => transition.place? = some place).flatMap
    Transition.freeCalls

/-- Whether the owner at a place is dropped. -/
def droppedIn (place : ℕ) (transitions : List (Transition σ κ)) : Bool :=
  transitions.any (·.drops place)

variable (boundary : Boundary σ κ) {holdings : Holdings κ}

theorem freesAt_cons (place : ℕ) (transition : Transition σ κ) (rest : List (Transition σ κ)) :
    freesAt place (transition :: rest) =
      (if transition.place? = some place then transition.freeCalls else []) ++
        freesAt place rest := by
  by_cases hplace : transition.place? = some place
  · simp [freesAt, hplace]
  · simp [freesAt, hplace]

theorem freesAt_append (place : ℕ) (first second : List (Transition σ κ)) :
    freesAt place (first ++ second) = freesAt place first ++ freesAt place second := by
  simp [freesAt]

theorem freesAt_eq_nil {place : ℕ} {transitions : List (Transition σ κ)}
    (h : ∀ transition ∈ transitions, transition.place? = some place → transition.crossings = []) :
    freesAt place transitions = [] := by
  rw [freesAt, List.flatMap_eq_nil_iff]
  intro transition hmem
  obtain ⟨hmem, hplace⟩ := List.mem_filter.mp hmem
  rw [Transition.freeCalls, Transition.calls, h transition hmem (of_decide_eq_true hplace)]
  rfl

/-- Nothing crosses the boundary at a place that is empty, now and later. -/
theorem run_of_absent {place : ℕ} (hplace : place < holdings.owners.length)
    (habsent : holdings.owner? place = none) (steps : List (Step σ κ)) (state : σ) :
    ∀ transition ∈ holdings.run boundary steps state, transition.place? = some place →
      transition.crossings = [] := by
  apply run_forall boundary (A := fun _ => True)
    (P := fun holdings _ => place < holdings.owners.length ∧ holdings.owner? place = none)
    (Q := fun transition => transition.place? = some place → transition.crossings = [])
  · rintro holdings step state - ⟨hplace, habsent⟩
    have hcan : (holdings.take boundary step state).Can := take_can step
    have hlength := hcan.length_le
    rw [take_before] at hlength
    obtain ⟨hcrossings, hafter⟩ := hcan.of_absent (by rwa [take_before]) (by rwa [take_before])
    exact ⟨hcrossings, Nat.lt_of_lt_of_le hplace hlength, hafter⟩
  · exact fun _ _ => trivial
  · exact ⟨hplace, habsent⟩

/-- The digest of an owner is freed once if the owner is dropped, and else it is not. -/
theorem run_of_owner {place : ℕ} {held : Held κ} (hheld : holdings.owner? place = some held)
    (steps : List (Step σ κ)) (state : σ) :
    freesAt place (holdings.run boundary steps state) =
      if droppedIn place (holdings.run boundary steps state) then [held.owner.owned.freeCall]
      else [] := by
  revert held
  apply run_induction boundary (A := fun _ => True) (P := fun holdings _ transitions =>
    ∀ held, holdings.owner? place = some held → freesAt place transitions =
      if droppedIn place transitions then [held.owner.owned.freeCall] else []) ?_ ?_
    (fun _ _ => trivial)
  · intro _ _ held _
    rfl
  · intro holdings step later state _ first behind ih held hheld
    have hcan : first.Can := take_can step
    have hbefore : first.before = holdings := take_before boundary holdings step state
    rw [← hbefore] at hheld
    rw [freesAt_cons, droppedIn, List.any_cons]
    by_cases hplace : first.place? = some place
    · rw [if_pos hplace]
      rcases hcan.of_owner hheld hplace with ⟨hdrops, hfrees, hafter⟩ |
        ⟨hdrops, hfrees, next, hafter, howned⟩
      · have hlt := Nat.lt_of_lt_of_le (owner?_lt hheld) hcan.length_le
        rw [freesAt_eq_nil (run_of_absent boundary hlt hafter later first.next), hdrops, hfrees]
        rfl
      · rw [ih next hafter, hdrops, hfrees, howned]
        rfl
    · have hdrops : first.drops place = false := by
        rw [← Bool.not_eq_true]
        exact fun hdrops => hplace (Transition.place?_of_drops hdrops)
      rw [if_neg hplace, hdrops]
      exact ih held ((hcan.owner?_of_ne (owner?_lt hheld) hplace).trans hheld)

/-- How an owner is dropped. If the engine reports that it could not free the digest, the report is
swallowed with one warning; what is held and what is left behind is the same as if it could. -/
structure Transition.Drops (transition : Transition σ κ) (boundary : Boundary σ κ) (place : ℕ)
    (held : Held κ) : Prop where
  crossings : transition.crossings = [.asked held.owner.owned.freeCall
    (boundary.replyTo held.owner.owned.freeCall transition.state)]
  outcome : transition.outcome =
    Digest.freed (boundary.replyTo held.owner.owned.freeCall transition.state)
  events : transition.events =
    (boundary.answer held.owner.owned.freeCall transition.state).events ++
      held.owner.owned.freeWarnings
        (boundary.replyTo held.owner.owned.freeCall transition.state)
  swallowed : ∀ e, (boundary.replyTo held.owner.owned.freeCall transition.state :
      Except String (Except NativeError Unit)) = .ok (.error e) →
    transition.outcome = .ok () ∧ ∃ warning : Event, warning.level = .warn ∧
      transition.events =
        (boundary.answer held.owner.owned.freeCall transition.state).events ++ [warning]
  after : transition.after = transition.before.put place none
  next : transition.next = held.owner.letGo boundary
    (boundary.behind held.owner.owned.freeCall transition.state)

theorem take_drops {place : ℕ} {held : Held κ} (hheld : holdings.owner? place = some held)
    (state : σ) :
    (holdings.take boundary (.act (.drop place)) state).Drops boundary place held := by
  rw [take_drop boundary state hheld]
  refine ⟨rfl, rfl, rfl, ?_, rfl, rfl⟩
  intro e hreply
  simp only at hreply ⊢
  rw [hreply]
  exact ⟨rfl, _, rfl, rfl⟩

/-- What becomes of the digests in the transitions of a process. -/
structure Lifetimes (boundary : Boundary σ κ) (transitions : List (Transition σ κ)) : Prop where
  /-- The engine is asked once for a new owner. The digest that it gives is freed once if the owner
  is dropped, and else it is not; where it gives none that is valid, nothing is ever freed. -/
  created : ∀ before transition rest, transitions = before ++ transition :: rest →
    ∀ place kind algorithm context, transition.step = .act (.create place kind algorithm) →
      transition.before.contexts[place]? = some context →
        let own := transition.before.owners.length
        let call := NativeCall.digestCreate context.handle algorithm
        transition.calls = [call] ∧ freesAt own before = [] ∧
          ((∃ owner : Owner κ, transition.outcome = .ok () ∧
              transition.crossings = [.asked call (.ok (.ok owner.owned.handle))] ∧
              owner.owned.handle.isValid = true ∧ owner.owned.context = context.handle ∧
              freesAt own rest =
                if droppedIn own rest then [.digestFree context.handle owner.owned.handle] else []) ∨
            (∃ failure, transition.outcome = .error failure) ∧ freesAt own rest = [])
  /-- Nothing but the drop of an owner frees a digest, and what it frees is the digest of the
  owner. -/
  freed : ∀ transition ∈ transitions, ∀ call ∈ transition.calls, call.frees = true →
    ∃ place held, transition.step = .act (.drop place) ∧
      transition.before.owner? place = some held ∧
      transition.calls = [held.owner.owned.freeCall]
  dropped : ∀ transition ∈ transitions, ∀ place held, transition.step = .act (.drop place) →
    transition.before.owner? place = some held → transition.Drops boundary place held

/-- Nothing is freed at a place before it is there. -/
theorem freesAt_of_later {steps : List (Step σ κ)} {state : σ}
    {before rest : List (Transition σ κ)} {transition : Transition σ κ}
    (hrun : ({} : Holdings κ).run boundary steps state = before ++ transition :: rest) :
    freesAt transition.before.owners.length before = [] := by
  have hbefore := run_history boundary (A := fun _ => True)
    (P := fun earlier holdings _ =>
      ∀ place, holdings.owners.length ≤ place → freesAt place earlier = [])
    (Q := fun earlier transition => freesAt transition.before.owners.length earlier = [])
    ?_ [] (fun _ _ => trivial) (fun _ _ => rfl) hrun
  · exact hbefore
  · intro earlier holdings step state _ hnone
    have hcan : (holdings.take boundary step state).Can := take_can step
    have hlength := hcan.length_le
    refine ⟨by rw [take_before]; exact hnone _ (Nat.le_refl _), ?_⟩
    intro place hplace
    rw [take_before] at hlength
    have habsent : holdings.owner? place = none := by
      rw [owner?, List.getElem?_eq_none (Nat.le_trans hlength hplace)]
      rfl
    rw [freesAt_append, hnone place (Nat.le_trans hlength hplace), List.nil_append, freesAt_cons]
    split
    next hsame => rw [hcan.freeCalls_of_absent (by rwa [take_before]) hsame]; rfl
    next => rfl

theorem created_lifetime {steps : List (Step σ κ)} {state : σ}
    {before rest : List (Transition σ κ)} {transition : Transition σ κ}
    (hrun : holdings.run boundary steps state = before ++ transition :: rest)
    {place : ℕ} {kind : Owner.Kind} {algorithm : String} {context : Context}
    (hstep : transition.step = .act (.create place kind algorithm))
    (hcontext : transition.before.contexts[place]? = some context) :
    let own := transition.before.owners.length
    let call := NativeCall.digestCreate context.handle algorithm
    transition.calls = [call] ∧
      ((∃ owner : Owner κ, transition.outcome = .ok () ∧
          transition.crossings = [.asked call (.ok (.ok owner.owned.handle))] ∧
          owner.owned.handle.isValid = true ∧ owner.owned.context = context.handle ∧
          freesAt own rest =
            if droppedIn own rest then [.digestFree context.handle owner.owned.handle] else []) ∨
        (∃ failure, transition.outcome = .error failure) ∧ freesAt own rest = []) := by
  intro own call
  obtain ⟨htaken, later, rfl⟩ := run_split boundary hrun
  have hcan : transition.Can := htaken ▸ take_can transition.step
  cases hcan with
  | apart apart =>
      rw [apart.contextless hstep] at hcontext
      cases hcontext
  | refused step found crossings unusable outcome after =>
      rw [hstep] at step
      cases step
      rw [hcontext] at found
      cases found
      refine ⟨Transition.calls_of_asked crossings, .inr ⟨⟨_, outcome⟩, ?_⟩⟩
      apply freesAt_eq_nil
      apply run_of_absent boundary
      · simp [after, withOwner, own]
      · rw [after, owner?_withOwner_length]
  | @created _ _ _ _ owner step found crossings outcome valid made named after =>
      rw [hstep] at step
      cases step
      rw [hcontext] at found
      cases found
      refine ⟨Transition.calls_of_asked crossings,
        .inl ⟨_, outcome, crossings, valid, made, ?_⟩⟩
      rw [← made]
      have howner : transition.after.owner? own = some { context := place, owner } := by
        rw [after, owner?_withOwner_length]
      exact run_of_owner boundary howner later transition.next
  | used step found calls owned after =>
      rw [hstep] at step
      cases step
  | dropped step found crossings after =>
      rw [hstep] at step
      cases step

/-- In every run of a process. -/
theorem run_lifetimes (steps : List (Step σ κ)) (state : σ) :
    Lifetimes boundary (({} : Holdings κ).run boundary steps state) := by
  constructor
  · intro before transition rest hrun place kind algorithm context hstep hcontext
    obtain ⟨hcalls, hfrees⟩ := created_lifetime boundary hrun hstep hcontext
    exact ⟨hcalls, freesAt_of_later boundary hrun, hfrees⟩
  · intro transition hmem call hcall hfrees
    obtain ⟨before, rest, hrun⟩ := List.append_of_mem hmem
    have hcan : transition.Can := (run_split boundary hrun).1 ▸ take_can transition.step
    exact hcan.of_frees hcall hfrees
  · intro transition hmem place held hstep hheld
    obtain ⟨before, rest, hrun⟩ := List.append_of_mem hmem
    rw [(run_split boundary hrun).1, hstep]
    exact take_drops boundary hheld transition.state

end Holdings

end SigningEngine
