import SigningEngine.Proofs.Context.Exhaustion
import SigningEngine.Proofs.Text.UpperCase

/-!
# Reports that a context is not in FIPS mode

The phrase that says so is looked for in upper case, so neither the case of its letters matters nor
what stands around it. An ASCII report is recognised for the phrase alone; in others, characters
that are not ASCII may become letters of the phrase.

The main statement is `notInFipsMode_in_any_case`, which says besides what such a report does to the
creation of a context.
-/

namespace SigningEngine

namespace NativeError

/-- The phrase stands somewhere in the report, in any case of its ASCII letters. -/
def NamesPhrase (e : NativeError) : Prop :=
  ∃ before phrase after : String, e.message = before ++ phrase ++ after ∧
    Text.lowerAscii phrase = Text.lowerAscii notInFipsModePhrase

variable {e other : NativeError}

/-- A report is recognised exactly if a part of it has the upper case of the phrase, which no
expansion cuts. -/
theorem isNotInFipsMode_iff :
    e.isNotInFipsMode = true ↔ ∃ part, part <:+: e.message.toList ∧
      Text.upperChars part = Text.upperChars notInFipsModePhrase.toList := by
  rw [isNotInFipsMode, Text.occursIn_iff]
  apply Text.infix_upperChars_iff
  decide +kernel

/-- Letters of the phrase may come from other characters, and two of them from one. -/
example : (NativeError.mk "context ıſ not in ﬁps mode").isNotInFipsMode = true := by
  decide +kernel

theorem isNotInFipsMode_congr (h : Text.lowerAscii e.message = Text.lowerAscii other.message) :
    e.isNotInFipsMode = other.isNotInFipsMode := by
  rw [isNotInFipsMode, isNotInFipsMode, Text.upperChars_of_lowerAscii h]

theorem NamesPhrase.isNotInFipsMode (h : e.NamesPhrase) : e.isNotInFipsMode = true := by
  obtain ⟨before, phrase, after, hmessage, hphrase⟩ := h
  refine isNotInFipsMode_iff.mpr ⟨phrase.toList, ?_, Text.upperChars_of_lowerAscii hphrase⟩
  refine ⟨before.toList, after.toList, ?_⟩
  rw [hmessage, String.toList_append, String.toList_append]

/-- An ASCII report is recognised for the phrase alone. -/
theorem namesPhrase_of_ascii (hascii : ∀ c ∈ e.message.toList, c.toNat < 128)
    (h : e.isNotInFipsMode = true) : e.NamesPhrase := by
  obtain ⟨part, ⟨before, after, hmessage⟩, hpart⟩ := isNotInFipsMode_iff.mp h
  refine ⟨.ofList before, .ofList part, .ofList after, ?_, ?_⟩
  · apply String.toList_injective
    simp only [String.toList_append, String.toList_ofList, hmessage]
  · -- The part is ASCII like the report, so its upper case leaves nothing open but the case.
    refine (Text.upperChars_eq_iff ?_ ?_).mp ?_
    · intro c hc
      rw [String.toList_ofList] at hc
      apply hascii
      rw [← hmessage]
      exact List.mem_append_left after (List.mem_append_right before hc)
    · exact Text.ascii_of_all (by decide)
    · rw [String.toList_ofList, hpart]

end NativeError

namespace Context

variable {σ κ : Type} (boundary : Boundary σ κ)

/-- A report is recognised wherever the phrase stands in it and whatever the case of its letters, and
creation of a FIPS context whose last attempt it answers ends with it. ASCII reports are recognised
for the phrase alone. In any report the case of ASCII letters does not matter. -/
theorem notInFipsMode_in_any_case :
    (∀ e : NativeError, e.NamesPhrase → e.isNotInFipsMode = true) ∧
    (∀ (config : ContextConfig) (state : σ) (reports : ℕ → NativeError),
      config.maxFipsAttempts ≠ 0 →
      AllReported boundary true config.maxFipsAttempts.toNat state reports →
      let last := reports (config.maxFipsAttempts.toNat - 1)
      let ran := (create boundary true config).outcome { state }
      last.NamesPhrase →
        ran.1 = .error (.error (.init last.message)) ∧
          ran.2.calls.toList =
            List.replicate config.maxFipsAttempts.toNat (.createContext true)) ∧
    (∀ e : NativeError, (∀ c ∈ e.message.toList, c.toNat < 128) →
      (e.isNotInFipsMode = true ↔ e.NamesPhrase)) ∧
    ∀ e other : NativeError, Text.lowerAscii e.message = Text.lowerAscii other.message →
      e.isNotInFipsMode = other.isNotInFipsMode := by
  refine ⟨fun e h => h.isNotInFipsMode, ?_, ?_, fun e other h => NativeError.isNotInFipsMode_congr h⟩
  · intro config state reports hlimit hreports last ran hlast
    exact hreports.create_of_isNotInFipsMode boundary hlimit hlast.isNotInFipsMode
  · intro e hascii
    exact ⟨NativeError.namesPhrase_of_ascii hascii, fun h => h.isNotInFipsMode⟩

/-- A report with characters around the phrase that become several in upper case. -/
def expandingReport : NativeError := ⟨"ŉ (straße): cOnTeXt Is nOt In FiPs MoDe, eﬃcient ΰ"⟩

/-- An engine that reports this to the second attempt, and something else to the first. -/
def reportingLast : World :=
  { engines := #[.scripted
      { createContext :=
          { upcoming := [.ok (.error ⟨"entropy source unavailable"⟩)]
            rest := .ok (.error expandingReport) } }] }

def reportsUpToLast : ℕ → NativeError
  | 0 => ⟨"entropy source unavailable"⟩
  | _ => expandingReport

theorem reportingLast_allReported :
    AllReported (World.boundary 0) true twoAttempts.maxFipsAttempts.toNat reportingLast
      reportsUpToLast := by
  intro made hmade
  match made, hmade with
  | 0, _ => rfl
  | 1, _ => rfl

/-- Creation fails with the report although the policy is to go on with the invalid handle. A blank too
many is not overlooked. -/
theorem notInFipsMode_in_any_case_expanding :
    expandingReport.NamesPhrase ∧ expandingReport.isNotInFipsMode = true ∧
      twoAttempts.maxFipsAttempts ≠ 0 ∧
      AllReported (World.boundary 0) true twoAttempts.maxFipsAttempts.toNat reportingLast
        reportsUpToLast ∧
      ((create (World.boundary 0) true twoAttempts).outcome { state := reportingLast }).1 =
        .error (.error (.init expandingReport.message)) ∧
      ¬ (NativeError.mk "Context is not in  FIPS mode").NamesPhrase ∧
      Text.lowerAscii "sTRAßE: context ıS not in fips mode" =
        Text.lowerAscii "Straße: Context ıs Not In FIPS Mode" ∧
      (NativeError.mk "sTRAßE: context ıS not in fips mode").isNotInFipsMode =
        (NativeError.mk "Straße: Context ıs Not In FIPS Mode").isNotInFipsMode := by
  have hnames : expandingReport.NamesPhrase :=
    ⟨"ŉ (straße): ", "cOnTeXt Is nOt In FiPs MoDe", ", eﬃcient ΰ", by decide +kernel,
      by decide +kernel⟩
  have hlimit : twoAttempts.maxFipsAttempts ≠ 0 := by decide
  have hcase : Text.lowerAscii "sTRAßE: context ıS not in fips mode" =
      Text.lowerAscii "Straße: Context ıs Not In FIPS Mode" := by decide +kernel
  have hother : (NativeError.mk "Context is not in  FIPS mode").isNotInFipsMode = false := by
    decide +kernel
  obtain ⟨hrecognised, hcreation, hascii, hcongr⟩ := notInFipsMode_in_any_case (World.boundary 0)
  obtain ⟨houtcome, -⟩ :=
    hcreation twoAttempts reportingLast reportsUpToLast hlimit reportingLast_allReported hnames
  refine ⟨hnames, hrecognised _ hnames, hlimit, reportingLast_allReported, houtcome, ?_, hcase,
    hcongr _ _ hcase⟩
  rw [← hascii _ (Text.ascii_of_all (by decide)), hother]
  exact Bool.false_ne_true

end Context

end SigningEngine
