import SigningEngine.Proofs.Session.Lives
import SigningEngine.Proofs.Software.Footprint

/-!
# The contexts that a software engine keeps

No request closes a context, changes it or registers another one under its number, as long as the
numbers fit in a word. For the same reason a number that was passed by without a context, such as
the invalid one, never gets one. So what the engine answers in a context is settled once the number
of the context has been passed.
-/

namespace SigningEngine.Software

namespace Config

/-- What an engine with this configuration reports about a context. -/
def reported (config : Config) (fips : Bool) : EngineValue → String
  | .fipsApprovedMode => if fips then "1" else "0"
  | .installPath => config.installPath
  | .version => engineVersion

/-- How a validation ends: nothing may be expected but what is found. -/
def verdict (expected : Option String) (found : String) (report : String → NativeError) :
    Except NativeError Unit :=
  match expected with
  | none => .ok ()
  | some other => if other = found then .ok () else .error (report other)

def locationVerdict (config : Config) : Except NativeError Unit :=
  verdict config.expectedInstallPath config.installPath fun expected =>
    ⟨"library loaded from " ++ config.installPath ++ ", expected " ++ expected⟩

def versionVerdict (config : Config) : Except NativeError Unit :=
  verdict config.expectedVersion engineVersion fun expected =>
    ⟨"library version " ++ engineVersion ++ " does not match signature file version " ++ expected⟩

end Config

namespace HashAlgorithm

variable {name : String}

/-- The name is SHA-256, SHA-384 or SHA-512, whatever the case of its letters and whether hyphens and
underscores are put in or left out. -/
def IsSupported (name : String) : Prop :=
  let plain := name.toList.filter fun c => c != '-' && c != '_'
  Text.upperChars plain ∈ ["SHA256".toList, "SHA384".toList, "SHA512".toList]

instance (name : String) : Decidable (IsSupported name) :=
  inferInstanceAs (Decidable (_ ∈ _))

example : IsSupported "Sha_384" := by decide +kernel

theorem isSome_ofName?_iff : (ofName? name).isSome = true ↔ IsSupported name := by
  have hplain : canonicalName name =
      Text.upperChars (name.toList.filter fun c => c != '-' && c != '_') := by
    have hkept (c : Char) : (!isSeparator c) = (c != '-' && c != '_') := by
      rw [isSeparator, Bool.not_or, bne, bne, beq_eq_decide, beq_eq_decide]
    simp only [canonicalName, hkept]
  rw [IsSupported, ← hplain, ofName?]
  generalize canonicalName name = canonical
  simp only [List.mem_cons, List.not_mem_nil, or_false]
  split_ifs <;> simp_all

end HashAlgorithm

namespace Engine

variable {engine next : Engine} {context : ContextHandle}

/-! ### What requests leave -/

theorem serve_config (engine : Engine) (request : Request) :
    (engine.serve request).2.config = engine.config := by
  cases hrefused : request.refused (engine.serve request).1 with
  | true => rw [(serve_refused engine request hrefused).1]
  | false => exact (serve_changesOnly engine request hrefused).config

/-- Whether there is a context under a number that was passed does not change any more, nor which
one. -/
theorem serve_contexts (engine : Engine) (request : Request)
    (hpassed : context.raw.toNat ≤ engine.issued)
    (hsmall : (engine.serve request).2.issued < UInt64.size) :
    (engine.serve request).2.contexts.find? context = engine.contexts.find? context := by
  cases hrefused : request.refused (engine.serve request).1 with
  | true => rw [(serve_refused engine request hrefused).1]
  | false =>
      apply (serve_changesOnly engine request hrefused).contexts
      rw [List.mem_append, not_or]
      constructor
      · -- What a request is to change or remove is a digest or a key.
        rw [Option.mem_toList]
        cases request with
        | call native => cases native <;> simp [Request.target]
        | _ => simp [Request.target]
      · intro hissued
        have hbounds := (serve_issues engine request).bounds hsmall hissued
        exact absurd hbounds.1 (Nat.not_lt_of_le hpassed)

namespace Serves

theorem issued_le (h : engine.Serves next) : engine.issued ≤ next.issued := by
  obtain ⟨requests, rfl⟩ := h
  rw [(serveAll_issues engine requests).count]
  exact Nat.le_add_right _ _

theorem config (h : engine.Serves next) : next.config = engine.config := by
  obtain ⟨requests, rfl⟩ := h
  induction requests generalizing engine with
  | nil => rfl
  | cons request rest ih => exact ih.trans (serve_config engine request)

theorem contexts (h : engine.Serves next) (hpassed : context.raw.toNat ≤ engine.issued)
    (hsmall : next.issued < UInt64.size) :
    next.contexts.find? context = engine.contexts.find? context := by
  obtain ⟨requests, rfl⟩ := h
  induction requests generalizing engine with
  | nil => rfl
  | cons request rest ih =>
      have hfirst := (serves_request engine request).issued_le
      have hrest : (engine.serve request).2.issued ≤ (engine.serveAll (request :: rest)).2.issued :=
        issued_le ⟨rest, rfl⟩
      rw [serveAll_cons, ih (Nat.le_trans hpassed hfirst) hsmall]
      exact serve_contexts engine request hpassed (Nat.lt_of_le_of_lt hrest hsmall)

end Serves

/-! ### Answers in a context -/

def unknownContext (context : ContextHandle) : NativeError :=
  ⟨"unknown context handle " ++ context.text⟩

section Registered

variable {fips : Bool} (hfound : engine.contexts.find? context = some fips)
include hfound

theorem contextFips_of_registered : engine.contextFips context = .ok fips := by
  rw [contextFips, hfound]

theorem scalarValue_of_registered (value : EngineValue) :
    engine.scalarValue context value = .ok (engine.config.reported fips value) := by
  rw [scalarValue, contextFips_of_registered hfound]
  cases value <;> rfl

theorem validateLocation_of_registered :
    engine.validateLocation context = engine.config.locationVerdict := by
  rw [validateLocation, contextFips_of_registered hfound, Config.locationVerdict]
  cases engine.config.expectedInstallPath with
  | none => rfl
  | some expected =>
      by_cases hsame : expected = engine.config.installPath
      · simp [Config.verdict, hsame, bind, Except.bind, pure, Except.pure]
      · simp [Config.verdict, hsame, bind, Except.bind, throw, throwThe, MonadExceptOf.throw]

theorem validateVersion_of_registered :
    engine.validateVersion context = engine.config.versionVerdict := by
  rw [validateVersion, contextFips_of_registered hfound, Config.versionVerdict]
  cases engine.config.expectedVersion with
  | none => rfl
  | some expected =>
      by_cases hsame : expected = engineVersion
      · simp [Config.verdict, hsame, bind, Except.bind, pure, Except.pure]
      · simp [Config.verdict, hsame, bind, Except.bind, throw, throwThe, MonadExceptOf.throw]

/-- A digest of a supported algorithm gets a valid handle, as long as there is one left. -/
theorem digestCreate_of_registered {algorithm : String}
    (hsupported : HashAlgorithm.IsSupported algorithm)
    (hleft : engine.issued + 1 < UInt64.size) :
    ∃ handle : DigestHandle, handle.isValid = true ∧
      (engine.reply (.digestCreate context algorithm)).1 = .ok handle := by
  obtain ⟨hash, hhash⟩ :=
    Option.isSome_iff_exists.mp (HashAlgorithm.isSome_ofName?_iff.mpr hsupported)
  refine ⟨⟨engine.allocate.1⟩, ?_, ?_⟩
  · rw [Handle.isValid_iff]
    intro hzero
    have hnumber := allocate_toNat hleft
    rw [Handle.mk.inj hzero] at hnumber
    cases hnumber
  · rw [reply, digestCreate_eq, hfound, hhash]
    rfl

end Registered

section Absent

variable (habsent : engine.contexts.find? context = none)
include habsent

theorem scalarValue_of_absent (value : EngineValue) :
    engine.scalarValue context value = .error (unknownContext context) := by
  rw [scalarValue, contextFips, habsent]
  rfl

theorem digestCreate_of_absent (algorithm : String) :
    engine.reply (.digestCreate context algorithm) = (.error (unknownContext context), engine) := by
  rw [reply, digestCreate_eq, habsent]
  rfl

end Absent

end Engine

end SigningEngine.Software
