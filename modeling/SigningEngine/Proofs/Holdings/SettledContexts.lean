import SigningEngine.Proofs.Context.Settled
import SigningEngine.Proofs.Holdings.Moves

/-!
# Contexts are settled at creation

A process creates contexts on a software engine, asks them and works in them, and everybody else
has the engine serve requests of any kind meanwhile. What a context is good for does not change any
more once it is created: its number stays registered and is not given out again, and it keeps
nothing but what the engine reports. A context on the invalid handle stays dead, since this number
is never given out.

The main statement is `settled_at_creation`.
-/

namespace SigningEngine

namespace World

variable {id : EngineId} {world middle next : World}

/-- The software engine at a place serves requests, whatever happens elsewhere. -/
def ServesAt (id : EngineId) (world next : World) : Prop :=
  ∀ engine, world.softwareEngine? id = some engine →
    ∃ later, next.softwareEngine? id = some later ∧ engine.Serves later

theorem servesAt_of_engines_eq (h : next.engines = world.engines) : ServesAt id world next := by
  intro engine hengine
  refine ⟨engine, ?_, .refl engine⟩
  rwa [softwareEngine?, h]

theorem ServesAt.trans (first : ServesAt id world middle) (second : ServesAt id middle next) :
    ServesAt id world next := by
  intro engine hengine
  obtain ⟨found, hfound, hfirst⟩ := first engine hengine
  obtain ⟨later, hlater, hsecond⟩ := second found hfound
  exact ⟨later, hlater, hfirst.trans hsecond⟩

/-- Material that is forgotten may be the engine's own or another one's. -/
theorem forget_servesAt (id : EngineId) (world : World) (key : Key) :
    ServesAt id world (world.forget key) := by
  cases key with
  | scripted key => exact servesAt_of_engines_eq rfl
  | software key =>
      rw [forget]
      split
      · exact servesAt_of_engines_eq rfl
      next owner howner =>
        intro engine hengine
        by_cases hsame : id = key.engine
        · subst hsame
          rw [howner, Option.some.injEq] at hengine
          subst hengine
          exact ⟨_, softwareEngine?_setEngine howner _, owner.serves_request (.dropKey key.handle)⟩
        · refine ⟨engine, ?_, .refl engine⟩
          rwa [softwareEngine?_setEngine_of_ne hsame]

theorem release_servesAt (id : EngineId) (world : World) (key : Key) :
    ServesAt id world (world.release key) := by
  have herased : ServesAt id world { world with references := world.references.erase key } :=
    servesAt_of_engines_eq rfl
  rw [release]
  split
  · exact herased
  · exact herased.trans (forget_servesAt id _ key)

theorem servesAt_movesBy (id : EngineId) :
    (boundary id).MovesBy (fun _ => True) (ServesAt id) where
  refl _ := servesAt_of_engines_eq rfl
  trans := .trans
  behind := by
    intro call world _ engine hengine
    rw [behind_software hengine]
    exact ⟨_, softwareEngine?_setEngine hengine _, engine.serves_request (.call call)⟩
  read key world := servesAt_of_engines_eq (readHandle_engines world key)
  release key world := release_servesAt id world key

end World

/-! ### Contexts that are asked -/

namespace Context

/-- What a context may have become behind a question. -/
structure Asked {σ κ : Type} (boundary : Boundary σ κ) (state : σ) (context next : Context) :
    Prop where
  handle : next.handle = context.handle
  fips : next.fips = context.fips
  kept : ∀ kept : Kept, kept.cell next = kept.cell context ∨
    ∃ value, fetched boundary context kept state = .ok value ∧ kept.cell next = some value

theorem answer_asked {σ κ : Type} (boundary : Boundary σ κ) (context : Context)
    (question : Question) (run : Run σ) :
    context.Asked boundary run.state (context.answer boundary question run).1.2 := by
  have hfetched (kept : Kept) := fetchOnce_cell (kept.cell context)
    (context.fetchValue boundary kept.value) run
  simp only [outcome_fetchValue] at hfetched
  cases question with
  | version =>
      refine ⟨rfl, rfl, fun kept => ?_⟩
      cases kept with
      | version => exact hfetched .version
      | installPath => exact .inl rfl
  | installPath =>
      refine ⟨rfl, rfl, fun kept => ?_⟩
      cases kept with
      | version => exact .inl rfl
      | installPath => exact hfetched .installPath
  | approvedMode => exact ⟨rfl, rfl, fun kept => .inl rfl⟩

variable {id : EngineId} {world : World} {engine : Software.Engine} {context next : Context}

/-- A question leaves a context settled. -/
theorem Settled.asked (h : context.Settled engine)
    (hengine : world.softwareEngine? id = some engine)
    (hnone : engine.contexts.find? .invalid = none)
    (hasked : context.Asked (World.boundary id) world next) : next.Settled engine := by
  cases h with
  | registered passed found kept =>
      refine .registered (by rwa [hasked.handle]) (by rwa [hasked.handle, hasked.fips]) ?_
      intro cell value hvalue
      rw [hasked.fips]
      rcases hasked.kept cell with hsame | ⟨fetched, hfetched, hnew⟩
      · exact kept cell value (hsame ▸ hvalue)
      · rw [fetched_software hengine, Software.Engine.scalarValue_of_registered found,
          Failure.ofReply, Except.ok.injEq] at hfetched
        rw [hvalue, Option.some.injEq] at hnew
        rw [hnew, hfetched]
  | invalid handle kept =>
      refine .invalid (hasked.handle.trans handle) fun cell => ?_
      rcases hasked.kept cell with hsame | ⟨fetched, hfetched, -⟩
      · rw [hsame, kept]
      · rw [fetched_software hengine, handle,
          Software.Engine.scalarValue_of_absent hnone] at hfetched
        cases hfetched

end Context

namespace Holdings

/-! ### What a step does to the contexts -/

section Contexts

variable {σ κ : Type} {boundary : Boundary σ κ} {holdings : Holdings κ}

/-- The contexts behind a transition: those that were there, one of them asked, or one more. -/
inductive Transition.Contexts (boundary : Boundary σ κ) (transition : Transition σ κ) : Prop where
  | same (contexts : transition.after.contexts = transition.before.contexts)
      (uncreated : ∀ fips config, transition.step = .act (.createContext fips config) →
        transition.outcome ≠ .ok ())
  | created {fips : Bool} {config : ContextConfig} {context : Context}
      (step : transition.step = .act (.createContext fips config))
      (outcome : (Context.creation boundary fips config transition.state).outcome = .ok context)
      (next : transition.next = (Context.creation boundary fips config transition.state).state)
      (contexts : transition.after.contexts = transition.before.contexts ++ [context])
  | asked {place : ℕ} {question : Context.Question} {context next : Context}
      (step : transition.step = .act (.ask place question))
      (found : transition.before.contexts[place]? = some context)
      (asked : context.Asked boundary transition.state next)
      (contexts : transition.after.contexts = transition.before.contexts.set place next)

theorem take_createContext_contexts (fips : Bool) (config : ContextConfig) (state : σ) :
    (holdings.take boundary (.act (.createContext fips config)) state).Contexts boundary := by
  obtain ⟨hended, -, hleft⟩ :=
    (Context.create_does boundary.observed fips config (state, [])).run
  obtain ⟨houtcome, hnext⟩ := Context.creation_observed boundary fips config (state, [])
  rw [← hended] at houtcome
  rw [← hleft] at hnext
  rw [take_createContext]
  simp only [houtcome, hnext]
  cases hcreated : (Context.creation boundary fips config state).outcome with
  | error failure => exact .same rfl (by simp [Except.map])
  | ok context => exact .created rfl hcreated rfl rfl

theorem take_contexts (step : Step σ κ) (state : σ) :
    (holdings.take boundary step state).Contexts boundary := by
  cases step with
  | elsewhere change => exact .same rfl (by simp)
  | act action =>
      cases action with
      | createContext fips config => exact take_createContext_contexts fips config state
      | ask place question =>
          cases hfound : holdings.contexts[place]? with
          | none =>
              rw [take_ask_of_none boundary state hfound]
              exact .same rfl (by simp [Transition.idle])
          | some context =>
              rw [take_ask boundary state hfound]
              obtain ⟨hhandle, hfips, hkept⟩ :=
                context.answer_asked boundary.observed question { state := (state, []) }
              exact .asked rfl hfound ⟨hhandle, hfips, hkept⟩ rfl
      | create place kind algorithm =>
          cases hfound : holdings.contexts[place]? with
          | none =>
              rw [take_create_of_none boundary state hfound]
              exact .same rfl (by simp [Transition.idle])
          | some context =>
              rw [take_create boundary state hfound]
              exact .same rfl (by simp)
      | use place use =>
          cases hfound : holdings.owner? place with
          | none =>
              rw [take_use_of_none boundary state hfound]
              exact .same rfl (by simp [Transition.idle])
          | some held =>
              rw [take_use boundary state hfound]
              exact .same rfl (by simp)
      | drop place =>
          cases hfound : holdings.owner? place with
          | none =>
              rw [take_drop_of_none boundary state hfound]
              exact .same rfl (by simp [Transition.idle])
          | some held =>
              rw [take_drop boundary state hfound]
              exact .same rfl (by simp)

/-- What the contexts were created as, in the order of creation. -/
def identities (holdings : Holdings κ) : List (ContextHandle × Bool) :=
  holdings.contexts.map fun context => (context.handle, context.fips)

/-- No context is ever taken for another one. -/
theorem Transition.Contexts.identities {transition : Transition σ κ}
    (h : transition.Contexts boundary) :
    transition.before.identities <+: transition.after.identities := by
  rw [Holdings.identities, Holdings.identities]
  cases h with
  | same contexts => exact contexts ▸ List.prefix_rfl
  | created step outcome next contexts =>
      rw [contexts, List.map_append]
      exact List.prefix_append _ _
  | @asked place question context next step found asked contexts =>
      obtain ⟨hlt, hcontext⟩ := List.getElem?_eq_some_iff.mp found
      obtain ⟨before, behind, hbefore, -, hset⟩ := @List.exists_of_set _ _ next _ hlt
      rw [hcontext] at hbefore
      rw [contexts, hset, hbefore]
      simp [asked.handle, asked.fips]

end Contexts

/-! ### Runs over a software engine -/

/-- What happens elsewhere asks the engine for anything, or for nothing. -/
def Step.Serves (id : EngineId) : Step World Key → Prop
  | .act _ => True
  | .elsewhere change => ∀ world, World.ServesAt id world (change world)

/-- The engine is the one that was configured so, and each context is settled, as long as its
numbers fit in a word. -/
def SettledBy (id : EngineId) (config : Software.Config) (holdings : Holdings Key)
    (world : World) : Prop :=
  ∃ engine, world.softwareEngine? id = some engine ∧ engine.config = config ∧
    (engine.issued < UInt64.size → engine.contexts.find? .invalid = none ∧
      ∀ context ∈ holdings.contexts, context.Settled engine)

variable {id : EngineId} {config : Software.Config} {holdings : Holdings Key} {world : World}

/-- Whatever step is taken, the engine serves requests. -/
theorem take_servesAt {step : Step World Key} (hserves : step.Serves id) :
    World.ServesAt id world (holdings.take (World.boundary id) step world).next := by
  cases step with
  | elsewhere change => exact hserves world
  | act action =>
      exact perform_along (World.servesAt_movesBy id).observed holdings action
        { state := (world, []) }

theorem SettledBy.take (h : SettledBy id config holdings world) {step : Step World Key}
    (hserves : step.Serves id) :
    let taken := holdings.take (World.boundary id) step world
    SettledBy id config taken.after taken.next := by
  intro taken
  obtain ⟨engine, hengine, hconfig, hkept⟩ := h
  have hserved : World.ServesAt id world taken.next := take_servesAt hserves
  obtain ⟨later, hlater, hlife⟩ := hserved engine hengine
  refine ⟨later, hlater, hlife.config.trans hconfig, fun hsmall => ?_⟩
  obtain ⟨hnone, hsettled⟩ := hkept (Nat.lt_of_le_of_lt hlife.issued_le hsmall)
  refine ⟨(hlife.contexts (Nat.zero_le _) hsmall).trans hnone, ?_⟩
  have hold : ∀ context ∈ holdings.contexts, context.Settled later :=
    fun context hcontext => (hsettled context hcontext).serves hlife hsmall
  have htaken : taken.Contexts (World.boundary id) := take_contexts step world
  intro context hcontext
  cases htaken with
  | same contexts =>
      rw [contexts, take_before] at hcontext
      exact hold context hcontext
  | created step outcome next contexts =>
      rw [contexts, take_before, List.mem_append, List.mem_singleton] at hcontext
      rw [take_state] at outcome next
      rcases hcontext with hbefore | rfl
      · exact hold context hbefore
      · obtain ⟨created, hstate, -, hcreated, -⟩ := Context.creation_settled hengine outcome
        have hsame : created = later := by
          rw [next, hstate, World.softwareEngine?_setEngine hengine, Option.some.injEq] at hlater
          exact hlater
        exact hsame ▸ hcreated
  | asked step found asked contexts =>
      rw [take_before] at found contexts
      rw [take_state] at asked
      rw [contexts] at hcontext
      rcases List.mem_or_eq_of_mem_set hcontext with hbefore | rfl
      · exact hold context hbefore
      · exact ((hsettled _ (List.mem_of_getElem? found)).asked hengine hnone asked).serves hlife
          hsmall

theorem settledBy_of_new (hengine : world.softwareEngine? id = some (.ofConfig config)) :
    SettledBy id config {} world := by
  refine ⟨_, hengine, rfl, fun _ => ⟨rfl, ?_⟩⟩
  intro context hcontext
  cases hcontext

/-- What a settled context is good for, before the numbers are used up. -/
theorem SettledBy.works_or_isDead (h : SettledBy id config holdings world) :
    ∃ engine, world.softwareEngine? id = some engine ∧
      (engine.issued + 1 < UInt64.size → engine.contexts.find? .invalid = none ∧
        ∀ context ∈ holdings.contexts,
          (context.handle.isValid = true → context.Works id config world) ∧
            (context.handle = .invalid → context.IsDead id world)) := by
  obtain ⟨engine, hengine, hconfig, hkept⟩ := h
  refine ⟨engine, hengine, fun hsmall => ?_⟩
  obtain ⟨hnone, hsettled⟩ := hkept (Nat.lt_of_succ_lt hsmall)
  refine ⟨hnone, fun context hcontext => ⟨fun hvalid => ?_, fun hinvalid => ?_⟩⟩
  · rw [← hconfig]
    exact (hsettled context hcontext).works hengine hvalid hsmall
  · exact (hsettled context hcontext).isDead hengine hinvalid hnone

/-- What a transition leaves lasts: the engine goes on serving requests, and no context is taken for
another one. -/
structure Lasts (id : EngineId) (transition : Transition World Key) (holdings : Holdings Key)
    (world : World) : Prop where
  serves : World.ServesAt id transition.next world
  identities : transition.after.identities <+: holdings.identities

theorem Lasts.take {transition : Transition World Key} (h : Lasts id transition holdings world)
    {step : Step World Key} (hserves : step.Serves id) :
    let taken := holdings.take (World.boundary id) step world
    Lasts id transition taken.after taken.next := by
  intro taken
  have hcontexts : taken.Contexts (World.boundary id) := take_contexts step world
  have hidentities := hcontexts.identities
  rw [take_before] at hidentities
  exact ⟨h.serves.trans (take_servesAt hserves), h.identities.trans hidentities⟩

theorem lasts_self (transition : Transition World Key) :
    Lasts id transition transition.after transition.next :=
  ⟨World.servesAt_of_engines_eq rfl, List.prefix_rfl⟩

/-- All along a run contexts are settled, and what was left before lasts. -/
theorem run_settled {steps : List (Step World Key)} (hsteps : ∀ step ∈ steps, step.Serves id)
    (h : SettledBy id config holdings world) {before rest : List (Transition World Key)}
    {transition : Transition World Key}
    (hrun : holdings.run (World.boundary id) steps world = before ++ transition :: rest) :
    SettledBy id config transition.before transition.state ∧
      SettledBy id config transition.after transition.next ∧
      ∀ earlier ∈ before ++ [transition], Lasts id earlier transition.after transition.next := by
  refine run_history (World.boundary id) (A := Step.Serves id)
    (P := fun earlier holdings world => SettledBy id config holdings world ∧
      ∀ transition ∈ earlier, Lasts id transition holdings world)
    (Q := fun earlier transition => SettledBy id config transition.before transition.state ∧
      SettledBy id config transition.after transition.next ∧
      ∀ other ∈ earlier ++ [transition], Lasts id other transition.after transition.next)
    ?_ [] hsteps ⟨h, by simp⟩ hrun
  intro earlier holdings step world hserves ⟨hsettled, hlasts⟩ taken
  have hnext : SettledBy id config taken.after taken.next := hsettled.take hserves
  have hall : ∀ other ∈ earlier ++ [taken], Lasts id other taken.after taken.next := by
    intro other hother
    rcases List.mem_append.mp hother with hmem | hlast
    · exact (hlasts other hmem).take hserves
    · rw [List.mem_singleton.mp hlast]
      exact lasts_self taken
  refine ⟨⟨?_, hnext, hall⟩, hnext, hall⟩
  rwa [take_before, take_state]

/-- A context that is there is there for ever, as what it was created. -/
theorem context_of_identities {earlier later : Holdings Key}
    (h : earlier.identities <+: later.identities) {place : ℕ} {context : Context}
    (hcontext : earlier.contexts[place]? = some context) :
    ∃ now, later.contexts[place]? = some now ∧ now.handle = context.handle ∧
      now.fips = context.fips := by
  have hidentity : earlier.identities[place]? = some (context.handle, context.fips) := by
    rw [identities, List.getElem?_map, hcontext]
    rfl
  obtain ⟨hlt, hplace⟩ := List.getElem?_eq_some_iff.mp hidentity
  have hlater := List.prefix_iff_getElem?.mp h place hlt
  rw [hplace, identities, List.getElem?_map, Option.map_eq_some_iff] at hlater
  obtain ⟨now, hnow, hsame⟩ := hlater
  obtain ⟨hhandle, hfips⟩ := Prod.mk.inj hsame
  exact ⟨now, hnow, hhandle, hfips⟩

/-- A creation over a software engine that returns a context settles what the context is good for.
If its handle is valid, it works in every later state of every run, whatever else is asked of the
engine. If its handle is the invalid one, this is by the policy, and the context is dead in all of
them. -/
theorem settled_at_creation (hengine : world.softwareEngine? id = some (.ofConfig config))
    {steps : List (Step World Key)} (hsteps : ∀ step ∈ steps, step.Serves id)
    {before later : List (Transition World Key)} {created : Transition World Key}
    (hrun : ({} : Holdings Key).run (World.boundary id) steps world = before ++ created :: later)
    {fips : Bool} {contextConfig : ContextConfig}
    (hstep : created.step = .act (.createContext fips contextConfig))
    (houtcome : created.outcome = .ok ()) :
    ∃ context, created.after.contexts = created.before.contexts ++ [context] ∧
      ∀ transition ∈ created :: later, ∃ engine,
        transition.next.softwareEngine? id = some engine ∧
          (engine.issued + 1 < UInt64.size → ∃ now,
            transition.after.contexts[created.before.contexts.length]? = some now ∧
              now.handle = context.handle ∧ now.fips = fips ∧
              (context.handle.isValid = true → now.Works id config transition.next) ∧
              (context.handle = .invalid → contextConfig.onExhaustedRetries = .invalidHandle ∧
                now.IsDead id transition.next)) := by
  obtain ⟨⟨engine, hfound, -, -⟩, -, -⟩ :=
    run_settled hsteps (settledBy_of_new hengine) hrun
  obtain ⟨htaken, -⟩ := run_split (World.boundary id) hrun
  have hcontexts : created.Contexts (World.boundary id) := by
    rw [htaken]
    exact take_contexts _ _
  cases hcontexts with
  | same contexts uncreated => exact absurd houtcome (uncreated fips contextConfig hstep)
  | asked step =>
      rw [hstep] at step
      cases step
  | @created _ _ context step outcome next contexts =>
      rw [hstep] at step
      cases step
      obtain ⟨behind, hstate, hfips, -, hpolicy⟩ := Context.creation_settled hfound outcome
      have hbehind : created.next.softwareEngine? id = some behind := by
        rw [next, hstate]
        exact World.softwareEngine?_setEngine hfound behind
      have hthere : created.after.contexts[created.before.contexts.length]? = some context := by
        rw [contexts]
        simp
      refine ⟨context, contexts, fun transition htransition => ?_⟩
      obtain ⟨front, rest, hsplit⟩ := List.append_of_mem htransition
      rw [hsplit, ← List.append_assoc] at hrun
      obtain ⟨-, hsettled, hearlier⟩ := run_settled hsteps (settledBy_of_new hengine) hrun
      have hlasts : Lasts id created transition.after transition.next := by
        apply hearlier
        cases front with
        | nil => simp [(List.cons.inj hsplit).1]
        | cons first front => simp [(List.cons.inj hsplit).1]
      obtain ⟨now, hnow, hhandle, hsame⟩ := context_of_identities hlasts.identities hthere
      obtain ⟨engine, hengine, hgood⟩ := hsettled.works_or_isDead
      refine ⟨engine, hengine, fun hsmall => ?_⟩
      obtain ⟨hnone, hall⟩ := hgood hsmall
      obtain ⟨hworks, hdead⟩ := hall now (List.mem_of_getElem? hnow)
      rw [hhandle] at hworks hdead
      refine ⟨now, hnow, hhandle, hsame.trans hfips, hworks, fun hinvalid => ⟨?_, hdead hinvalid⟩⟩
      apply hpolicy hinvalid
      -- What is registered under the invalid handle has not changed since.
      obtain ⟨found, hlater, hserves⟩ := hlasts.serves behind hbehind
      rw [hengine, Option.some.injEq] at hlater
      subst hlater
      rw [← hserves.contexts (Nat.zero_le _) (Nat.lt_of_succ_lt hsmall), hnone]

/-- Two self tests will fail, and the library is expected elsewhere. -/
def wornConfig : Software.Config :=
  { fipsSelfTestFailures := 2, expectedInstallPath := some "/opt/library" }

def wornEngine : World := { engines := #[.software (.ofConfig wornConfig)] }

/-- Two attempts at a context and then the invalid handle, without a look at the library. -/
def lenient : ContextConfig :=
  { maxFipsAttempts := 2, validateLocation := false, onExhaustedRetries := .invalidHandle }

/-- The first context uses up the failures and is built on the invalid handle, the second one is
granted. Both are asked and worked in, and one more is opened elsewhere. -/
def wornSteps : List (Step World Key) :=
  [.act (.createContext true lenient), .act (.createContext true lenient), .act (.ask 1 .version),
    .elsewhere ((World.boundary 0).behind (.createContext false)), .act (.ask 0 .version),
    .act (.create 0 .digest "SHA-256"), .act (.create 1 .signature "sha_512")]

theorem wornSteps_serve : ∀ step ∈ wornSteps, step.Serves 0 := by
  intro step hstep
  cases step with
  | act action => trivial
  | elsewhere change =>
      have hchange : change = (World.boundary 0).behind (.createContext false) := by
        simpa [wornSteps] using hstep
      intro world
      rw [hchange]
      exact (World.servesAt_movesBy 0).behind world fun _ _ => trivial

/-- The creation of the first context. -/
def wornFirst : Transition World Key :=
  ({} : Holdings Key).take (World.boundary 0) (.act (.createContext true lenient)) wornEngine

def wornSecond : Transition World Key :=
  wornFirst.after.take (World.boundary 0) (.act (.createContext true lenient)) wornFirst.next

/-- What follows both creations. -/
def wornLater : List (Transition World Key) :=
  wornSecond.after.run (World.boundary 0) (wornSteps.drop 2) wornSecond.next

theorem worn_run : ({} : Holdings Key).run (World.boundary 0) wornSteps wornEngine =
    wornFirst :: wornSecond :: wornLater := by
  have hfirst : ¬ wornFirst.aborts = true := by decide +kernel
  have hsecond : ¬ wornSecond.aborts = true := by decide +kernel
  show (if wornFirst.aborts then [wornFirst] else wornFirst ::
    wornFirst.after.run (World.boundary 0) (wornSteps.drop 1) wornFirst.next) = _
  rw [if_neg hfirst]
  show wornFirst :: (if wornSecond.aborts then [wornSecond] else wornSecond :: wornLater) = _
  rw [if_neg hsecond]

/-- The context on the invalid handle is dead in every state, and the other one works in every state
since it was created. -/
theorem settled_at_creation_worn :
    wornEngine.softwareEngine? 0 = some (.ofConfig wornConfig) ∧
      (∀ step ∈ wornSteps, step.Serves 0) ∧
      ({} : Holdings Key).run (World.boundary 0) wornSteps wornEngine =
        wornFirst :: wornSecond :: wornLater ∧
      wornSecond.after.contexts.map (·.handle) = [.invalid, ⟨1⟩] ∧ wornLater.length = 5 ∧
      (∀ transition ∈ wornFirst :: wornSecond :: wornLater,
        ∃ now, transition.after.contexts[0]? = some now ∧ now.IsDead 0 transition.next) ∧
      ∀ transition ∈ wornSecond :: wornLater,
        ∃ now, transition.after.contexts[1]? = some now ∧
          now.Works 0 wornConfig transition.next := by
  have hsmall : ∀ transition ∈ wornFirst :: wornSecond :: wornLater, ∀ engine,
      transition.next.softwareEngine? 0 = some engine → engine.issued + 1 < UInt64.size := by
    have hall : (wornFirst :: wornSecond :: wornLater).all (fun transition =>
        (transition.next.softwareEngine? 0).all (·.issued + 1 < UInt64.size)) = true := by
      decide +kernel
    intro transition htransition engine hengine
    have hone := List.all_eq_true.mp hall transition htransition
    rw [hengine] at hone
    simpa using hone
  have hhandles : wornSecond.after.contexts.map (·.handle) = [.invalid, ⟨1⟩] := by decide +kernel
  have hbefore : wornSecond.before.contexts.map (·.handle) = [.invalid] := by decide +kernel
  obtain ⟨dead, hdead, hdeadLater⟩ :=
    @settled_at_creation _ _ _ rfl _ wornSteps_serve [] _ _ worn_run _ _ rfl rfl
  obtain ⟨working, hworking, hworkingLater⟩ :=
    @settled_at_creation _ _ _ rfl _ wornSteps_serve [wornFirst] _ _ worn_run _ _ rfl rfl
  have hdeadHandle : dead.handle = .invalid := by
    have hfirst : wornSecond.before.contexts = [] ++ [dead] := hdead
    simpa [hfirst] using hbefore
  have hworkingHandle : working.handle = ⟨1⟩ := by
    rw [hworking, List.map_append, hbefore] at hhandles
    simpa using hhandles
  refine ⟨rfl, wornSteps_serve, worn_run, hhandles, by decide +kernel, ?_, ?_⟩
  · intro transition htransition
    obtain ⟨engine, hengine, hgood⟩ := hdeadLater transition htransition
    obtain ⟨now, hnow, -, -, -, hdeadNow⟩ :=
      hgood (hsmall transition htransition engine hengine)
    exact ⟨now, hnow, (hdeadNow hdeadHandle).2⟩
  · intro transition htransition
    obtain ⟨engine, hengine, hgood⟩ := hworkingLater transition htransition
    obtain ⟨now, hnow, -, -, hworks, -⟩ :=
      hgood (hsmall transition (List.mem_cons_of_mem _ htransition) engine hengine)
    exact ⟨now, hnow, hworks (by rw [hworkingHandle]; rfl)⟩

end Holdings

end SigningEngine
