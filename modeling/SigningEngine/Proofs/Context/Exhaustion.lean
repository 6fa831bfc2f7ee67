import SigningEngine.Proofs.Context.Creation
import SigningEngine.World

/-!
# When every attempt fails

Each attempt at a FIPS context may be answered by a report, and any of the reports may say that the
context is not in FIPS mode. Only the last one is asked for it: a report that came before is retried,
and not remembered when the attempts are used up.

The main statement is `last_report_decides`, for the policy that goes on with the invalid handle.
-/

namespace SigningEngine.Context

variable {σ κ : Type} (boundary : Boundary σ κ)

/-- So many attempts are all answered by reports, the first one by `reports 0`. -/
def AllReported (fips : Bool) (limit : ℕ) (state : σ) (reports : ℕ → NativeError) : Prop :=
  ∀ made < limit, answerAfter boundary fips made state = .ok (.error (reports made))

variable {fips : Bool} {limit : ℕ} {state : σ} {reports : ℕ → NativeError}

/-- Where every answer is a report, every attempt is made. -/
theorem AllReported.attemptsMade_eq (h : AllReported boundary fips limit state reports) :
    attemptsMade boundary fips limit state = limit := by
  have hnone : (List.range limit).findIdx
      (fun made => !isReport (answerAfter boundary fips made state)) = limit := by
    rw [List.findIdx_eq_length.mpr ?_, List.length_range]
    intro made hmade
    rw [h made (List.mem_range.mp hmade)]
    rfl
  rw [attemptsMade, firstSettled, hnone]
  exact Nat.min_eq_right (Nat.le_succ limit)

/-- The report to the last attempt that is allowed. -/
theorem AllReported.last {config : ContextConfig} (hlimit : config.maxFipsAttempts ≠ 0)
    (h : AllReported boundary fips (attemptsAllowed fips config) state reports) :
    answerAfter boundary fips (attemptsAllowed fips config - 1) state =
      .ok (.error (reports (attemptsAllowed fips config - 1))) := by
  apply h
  have hpos := attemptsAllowed_pos fips hlimit
  omega

/-- Behind attempts that all failed, a last report that no handle follows from ends creation. -/
theorem AllReported.creation_of_error {config : ContextConfig} {failure : Failure}
    (hlimit : config.maxFipsAttempts ≠ 0)
    (h : AllReported boundary fips (attemptsAllowed fips config) state reports)
    (hhandle : handleFor fips config (.ok (.error (reports (attemptsAllowed fips config - 1)))) =
      .error failure) :
    creation boundary fips config state =
      { outcome := .error failure
        calls := List.replicate (attemptsAllowed fips config) (.createContext fips)
        state := stateAfter boundary fips (attemptsAllowed fips config) state } := by
  rw [creation, if_neg hlimit, h.attemptsMade_eq]
  simp only [h.last boundary hlimit, hhandle]

/-- Behind attempts that all failed, creation goes on with the handle that follows from the last
report. -/
theorem AllReported.creation_of_ok {config : ContextConfig} {handle : ContextHandle}
    (hlimit : config.maxFipsAttempts ≠ 0)
    (h : AllReported boundary fips (attemptsAllowed fips config) state reports)
    (hhandle : handleFor fips config (.ok (.error (reports (attemptsAllowed fips config - 1)))) =
      .ok handle) :
    let checks := validated boundary handle (validations config)
      (stateAfter boundary fips (attemptsAllowed fips config) state)
    creation boundary fips config state =
      { outcome := checks.1.map fun _ => { handle, fips }
        calls := List.replicate (attemptsAllowed fips config) (.createContext fips) ++ checks.2.1
        state := checks.2.2 } := by
  rw [creation, if_neg hlimit, h.attemptsMade_eq]
  simp only [h.last boundary hlimit, hhandle]

/-- Under every policy a last report that is recognised ends creation: it is what creation fails
with, and nothing is called but the attempts. -/
theorem AllReported.create_of_isNotInFipsMode {config : ContextConfig}
    (hlimit : config.maxFipsAttempts ≠ 0)
    (hreports : AllReported boundary true config.maxFipsAttempts.toNat state reports)
    (hphrase : (reports (config.maxFipsAttempts.toNat - 1)).isNotInFipsMode = true) :
    let ran := (create boundary true config).outcome { state }
    ran.1 = .error (.error (.init (reports (config.maxFipsAttempts.toNat - 1)).message)) ∧
      ran.2.calls.toList = List.replicate config.maxFipsAttempts.toNat (.createContext true) := by
  have hall : AllReported boundary true (attemptsAllowed true config) state reports := hreports
  obtain ⟨houtcome, hcalls, -⟩ := (create_does boundary true config state).run
  rw [hall.creation_of_error boundary hlimit (handleFor_notInFipsMode config hphrase)]
    at houtcome hcalls
  exact ⟨houtcome, hcalls⟩

/-- When every attempt at a FIPS context fails and the policy is to go on with the invalid handle,
the last report decides. If it says that the context is not in FIPS mode, creation fails with it. If
it says anything else, the context is built on the invalid handle as far as the validations go, even
where reports before it said that the context is not in FIPS mode. -/
theorem last_report_decides {config : ContextConfig}
    (hpolicy : config.onExhaustedRetries = .invalidHandle) (hlimit : config.maxFipsAttempts ≠ 0)
    (hreports : AllReported boundary true config.maxFipsAttempts.toNat state reports) :
    let last := reports (config.maxFipsAttempts.toNat - 1)
    let tried := List.replicate config.maxFipsAttempts.toNat (NativeCall.createContext true)
    let checks := validated boundary .invalid (validations config)
      (stateAfter boundary true config.maxFipsAttempts.toNat state)
    let ran := (create boundary true config).outcome { state }
    (last.isNotInFipsMode = true →
        ran.1 = .error (.error (.init last.message)) ∧ ran.2.calls.toList = tried) ∧
      (last.isNotInFipsMode = false →
        ran.1 = checks.1.map (fun _ => { handle := .invalid, fips := true }) ∧
          ran.2.calls.toList = tried ++ checks.2.1) := by
  intro last tried checks ran
  constructor
  · intro hphrase
    exact hreports.create_of_isNotInFipsMode boundary hlimit hphrase
  · intro hother
    have hall : AllReported boundary true (attemptsAllowed true config) state reports := hreports
    obtain ⟨houtcome, hcalls, -⟩ := (create_does boundary true config state).run
    have hhandle : handleFor true config (.ok (.error last)) = .ok .invalid := by
      rw [handleFor_other true config hother, handleByPolicy, hpolicy]
      rfl
    rw [hall.creation_of_ok boundary hlimit hhandle] at houtcome hcalls
    exact ⟨houtcome, hcalls⟩

/-- An engine that reports first that the context is not in FIPS mode, and then something else. -/
def reportingFirst : World :=
  { engines := #[.scripted
      { createContext :=
          { upcoming := [.ok (.error ⟨"Context is not in FIPS mode"⟩)]
            rest := .ok (.error ⟨"entropy source unavailable"⟩) } }] }

/-- The legacy policy with two attempts and no validations. -/
def twoAttempts : ContextConfig :=
  { maxFipsAttempts := 2, validateLocation := false, onExhaustedRetries := .invalidHandle }

def reportsOfFirst : ℕ → NativeError
  | 0 => ⟨"Context is not in FIPS mode"⟩
  | _ => ⟨"entropy source unavailable"⟩

theorem reportingFirst_allReported :
    AllReported (World.boundary 0) true twoAttempts.maxFipsAttempts.toNat reportingFirst
      reportsOfFirst := by
  intro made hmade
  match made, hmade with
  | 0, _ => rfl
  | 1, _ => rfl

/-- Every attempt fails, one of the reports says that the context is not in FIPS mode, and the context
is built on the invalid handle all the same. -/
theorem reportingFirst_masked :
    AllReported (World.boundary 0) true twoAttempts.maxFipsAttempts.toNat reportingFirst
        reportsOfFirst ∧
      (reportsOfFirst 0).isNotInFipsMode = true ∧
      ((create (World.boundary 0) true twoAttempts).outcome { state := reportingFirst }).1.toOption =
        some { handle := .invalid, fips := true } :=
  ⟨reportingFirst_allReported, by decide +kernel, by decide +kernel⟩

theorem last_report_decides_reportingFirst :
    twoAttempts.onExhaustedRetries = .invalidHandle ∧ twoAttempts.maxFipsAttempts ≠ 0 ∧
      (reportsOfFirst 1).isNotInFipsMode = false ∧
      ((create (World.boundary 0) true twoAttempts).outcome { state := reportingFirst }).1 =
        .ok { handle := .invalid, fips := true } ∧
      ((create (World.boundary 0) true twoAttempts).outcome
          { state := reportingFirst }).2.calls.toList =
        [.createContext true, .createContext true] := by
  have hpolicy : twoAttempts.onExhaustedRetries = .invalidHandle := rfl
  have hlimit : twoAttempts.maxFipsAttempts ≠ 0 := by decide
  have hother : (reportsOfFirst 1).isNotInFipsMode = false := by decide +kernel
  obtain ⟨houtcome, hcalls⟩ :=
    (last_report_decides (World.boundary 0) hpolicy hlimit reportingFirst_allReported).2 hother
  exact ⟨hpolicy, hlimit, hother, houtcome, hcalls⟩

end SigningEngine.Context
