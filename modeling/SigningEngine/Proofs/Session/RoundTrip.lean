import SigningEngine.Proofs.Session.BoundKey
import SigningEngine.Proofs.Session.Turns
import SigningEngine.Proofs.Software.KeyPairs

/-!
# What one signature signs another one accepts

Two signatures of one engine are bound to the halves of a key pair, and each is fed the same message
in pieces of its own. What the one with the private half signs, the other accepts. Neither what
happened before the two were bound matters, nor what else is done in the process, nor for which
padding each of them was bound; and the two may name their hash algorithm in different ways.

The main statement is `sign_verify_round_trip`.
-/

namespace SigningEngine.Session

open Signature (joined)
open Software (KeyMaterial Halves GenuinePair)

variable {slot : String} {id : EngineId} {hash : Software.HashAlgorithm} {key : KeyHandle}
variable {plainRsa : Bool} {message : Bytes} {session : Session} {engine : Software.Engine}

/-! ### Signing and verifying -/

/-- A signature is answered with what the material under the handle of its key signs. -/
theorem Prepared.step_sign (h : Prepared slot id hash key plainRsa message session)
    (hengine : session.world.softwareEngine? id = some engine) (save : Option String) :
    (session.step (.signature slot (.sign save))).1 =
      ((Signature.settled "sign" (.ok (engine.keyMaterial key >>= (·.sign ⟨hash, message⟩ plainRsa)))
        (.ok ())).mapError .failed).map .bytes := by
  cases h with
  | @intro opened bound hfound hover hfeeds hbinds hshows hflag =>
    obtain ⟨owner, howner, hcovers⟩ := hfeeds.covers
    rw [hengine, Option.some.injEq] at howner
    subst howner hshows hflag
    have hread : session.world.Shows bound.handle (.software bound) := rfl
    rw [Session.step_sign hfound, hover, hfeeds.outcome_sign hbinds hread (hfeeds.shown hbinds),
      World.replyTo_software hengine, Software.Engine.reply, hcovers.sign]

/-- A candidate is judged by the material under the handle of the key. -/
theorem Prepared.step_verify (h : Prepared slot id hash key plainRsa message session)
    (hengine : session.world.softwareEngine? id = some engine) {candidate : Operand} {data : Bytes}
    (hdata : session.operandIn candidate = .ok data) :
    (session.step (.signature slot (.verify candidate))).1 =
      ((Signature.settled "verify"
        (.ok ((engine.keyMaterial key).map (·.verify ⟨hash, message⟩ data)))
        (.ok ())).mapError .failed).map .flag := by
  cases h with
  | @intro opened bound hfound hover hfeeds hbinds hshows hflag =>
    obtain ⟨owner, howner, hcovers⟩ := hfeeds.covers
    rw [hengine, Option.some.injEq] at howner
    subst howner hshows
    have hread : session.world.Shows bound.handle (.software bound) := rfl
    rw [Session.step_verify hfound hdata, hover,
      hfeeds.outcome_verify hbinds hread (hfeeds.shown hbinds), World.replyTo_software hengine,
      Software.Engine.reply, hcovers.verify]

theorem Prepared.sign_eq_ok (h : Prepared slot id hash key plainRsa message session)
    (hengine : session.world.softwareEngine? id = some engine) {save : Option String}
    {signature : Bytes}
    (hsigned : (session.step (.signature slot (.sign save))).1 = .ok (.bytes signature)) :
    ∃ material, engine.keys.find? key = some material ∧
      material.sign ⟨hash, message⟩ plainRsa = .ok signature := by
  rw [h.step_sign hengine] at hsigned
  generalize hreply : (engine.keyMaterial key >>= (·.sign ⟨hash, message⟩ plainRsa)) = reply
    at hsigned
  cases reply with
  | error e => cases hsigned
  | ok made =>
    obtain ⟨material, hmaterial, hmade⟩ := bind_eq_ok_iff.mp hreply
    cases hsigned
    exact ⟨material, Software.Engine.keyMaterial_eq_ok hmaterial, hmade⟩

theorem Prepared.verify_eq (h : Prepared slot id hash key plainRsa message session)
    (hengine : session.world.softwareEngine? id = some engine) {material : KeyMaterial}
    (hmaterial : engine.keys.find? key = some material) {candidate : Operand} {data : Bytes}
    (hdata : session.operandIn candidate = .ok data) :
    (session.step (.signature slot (.verify candidate))).1 =
      .ok (.flag (material.verify ⟨hash, message⟩ data)) := by
  rw [h.step_verify hengine hdata, Software.Engine.keyMaterial, hmaterial]
  rfl

/-! ### The halves of a generated pair -/

/-- The primes that were found for an RSA key are primes, and distinct. -/
def Step.FindsPrimes : Step → Prop
  | .generateRsa _ _ _ p q => p.Prime ∧ q.Prime ∧ p ≠ q
  | _ => True

/-- A step of a process has an engine generate a pair, and is answered with the handles of the two
halves. -/
inductive Generates (id : EngineId) (pair : Halves KeyMaterial) (handles : Halves KeyHandle) :
    List Step → Prop where
  | intro {earlier later : List Step} {step : Step}
      (asks : (({} : Session).after earlier).pairFor id step = some pair)
      (answered : ((({} : Session).after earlier).step step).1 = .ok (.keyPair handles))
      (primes : step.FindsPrimes) :
      Generates id pair handles (earlier ++ step :: later)

theorem genuine_of_pairFor {step : Step} {pair : Halves KeyMaterial}
    (h : session.pairFor id step = some pair) (hprimes : step.FindsPrimes) :
    GenuinePair pair := by
  obtain ⟨_, _, _, source, rfl, hpair⟩ | ⟨_, _, bits, p, q, rfl, hpair⟩ := pairFor_eq_some h
  · exact Software.generateEc_genuine hpair
  · obtain ⟨hp, hq, hne⟩ := hprimes
    exact Software.generateRsa_genuine hp hq hne hpair

variable {pair : Halves KeyMaterial} {handles : Halves KeyHandle} {run steps : List Step}

theorem Generates.genuine (h : Generates id pair handles run) : GenuinePair pair := by
  obtain ⟨hasks, -, hprimes⟩ := h
  exact genuine_of_pairFor hasks hprimes

/-- Both halves are listed under their handles. -/
theorem Generates.listed (h : Generates id pair handles run) :
    (handles.privateKey, pair.privateKey) ∈ generatedOver id {} run ∧
      (handles.publicKey, pair.publicKey) ∈ generatedOver id {} run := by
  cases h with
  | @intro earlier later step hasks hanswered hprimes =>
    rw [generatedOver_append, generatedOver, hasks]
    simp only [hanswered]
    simp [registered]

/-- Only an answer with the handles of a pair registers keys. -/
theorem answered_of_registered {asked : Option (Halves KeyMaterial)}
    {answer : Except StepError Answer} {privateKey publicKey : KeyHandle}
    (h : (registered asked answer).map Prod.fst = [publicKey, privateKey]) :
    ∃ pair, asked = some pair ∧ answer = .ok (.keyPair { privateKey, publicKey }) := by
  unfold registered at h
  split at h
  next pair handles =>
    cases h
    exact ⟨pair, rfl, rfl⟩
  next => cases h

/-- What an engine keeps at any time under the handle of a key that it generates is that key. -/
theorem material_eq_generated {handle : KeyHandle} {own material : KeyMaterial}
    (hown : (handle, own) ∈ generatedOver id {} run) (hcounted : Counted id (({} : Session).after run))
    (hsteps : steps <+: run)
    (hengine : (({} : Session).after steps).world.softwareEngine? id = some engine)
    (hmaterial : engine.keys.find? handle = some material) : material = own := by
  obtain ⟨rest, rfl⟩ := hsteps
  have hkept : (({} : Session).after steps).world.materialOf ⟨id, handle, .ec, true⟩ =
      some material := by
    rw [World.materialOf, hengine]
    exact hmaterial
  have hlisted : (handle, material) ∈ generatedOver id {} (steps ++ rest) := by
    rw [generatedOver_append]
    obtain ⟨newer, older, hlist, -⟩ := List.lookup_eq_some_iff.mp (generated_last steps hkept)
    have hlist : generatedOver id {} steps = newer ++ (handle, material) :: older := hlist
    simp [hlist]
  exact Option.some.inj
    ((generated_lookup hcounted hlisted).symm.trans (generated_lookup hcounted hown))

/-! ### The round trip -/

/-- In a process an engine generated a key pair. At one time a signature of that engine is bound to
the private half and has been fed a message, at another time a signature of that engine is bound to
either half and has been fed the same message. What the first one signs, the second one accepts, as
long as the engine still keeps the half and did not issue more handles than a word has numbers. -/
theorem sign_verify_round_trip {signer verifier algorithm otherAlgorithm : String}
    {toSign toVerify : List Step} {half : KeyHandle} {otherPlain : Bool}
    {pieces otherPieces : List (Bytes × Span)} {last : Software.Engine}
    (hlast : (({} : Session).after run).world.softwareEngine? id = some last)
    (hissued : last.issued < UInt64.size) (hgenerated : Generates id pair handles run)
    (hsigner : Prepares signer id algorithm handles.privateKey plainRsa pieces toSign)
    (hsignRun : toSign <+: run)
    (hverifier : Prepares verifier id otherAlgorithm half otherPlain otherPieces toVerify)
    (hverifyRun : toVerify <+: run)
    (hhalf : half = handles.privateKey ∨ half = handles.publicKey)
    (hlive : (({} : Session).after toVerify).world.softwareEngine? id = some engine)
    (hkept : engine.keys.contains half = true)
    (hnames : Software.HashAlgorithm.ofName? algorithm =
      Software.HashAlgorithm.ofName? otherAlgorithm)
    (hwithin : ∀ piece ∈ pieces ++ otherPieces, piece.2.Within piece.1)
    (hmessage : joined pieces = joined otherPieces) {save : Option String} {signature : Bytes}
    (hsigned : ((({} : Session).after toSign).step (.signature signer (.sign save))).1 =
      .ok (.bytes signature)) {candidate : Operand}
    (hcandidate : (({} : Session).after toVerify).operandIn candidate = .ok signature) :
    ((({} : Session).after toVerify).step (.signature verifier (.verify candidate))).1 =
      .ok (.flag true) := by
  have hcounted := Counted.of_engine hlast hissued
  have hevolves {steps : List Step} (hsteps : steps <+: run) :
      (({} : Session).after steps).world.Evolves (fun _ _ => True)
        (({} : Session).after run).world := by
    obtain ⟨rest, rfl⟩ := hsteps
    rw [after_append]
    exact after_evolves _ rest
  obtain ⟨signing, hsigning, -⟩ := (hevolves hsignRun).software_before hsigner.known hlast
  -- both signatures cover the message, under the same hash
  obtain ⟨hash, hhash, hprepared⟩ := hsigner.prepared
    (fun piece hpiece => hwithin piece (List.mem_append_left _ hpiece)) hsigning
    (hcounted.earlier (hevolves hsignRun) signing hsigning)
  obtain ⟨other, hother, hready⟩ := hverifier.prepared
    (fun piece hpiece => hwithin piece (List.mem_append_right _ hpiece)) hlive
    (hcounted.earlier (hevolves hverifyRun) engine hlive)
  obtain rfl : hash = other := Option.some.inj (hhash.symm.trans (hnames.trans hother))
  rw [← hmessage] at hready
  -- what is found under their handles are the halves of the pair
  obtain ⟨hprivate, hpublic⟩ := hgenerated.listed
  obtain ⟨material, hmaterial, hmade⟩ := hprepared.sign_eq_ok hsigning hsigned
  obtain rfl := material_eq_generated hprivate hcounted hsignRun hsigning hmaterial
  obtain ⟨byPrivate, byPublic⟩ := hgenerated.genuine.verify_of_sign hmade
  obtain ⟨found, hfound⟩ := Option.isSome_iff_exists.mp hkept
  have haccepts : found.verify ⟨hash, joined pieces⟩ signature = true := by
    rcases hhalf with rfl | rfl
    · rw [material_eq_generated hprivate hcounted hverifyRun hlive hfound]
      exact byPrivate
    · rw [material_eq_generated hpublic hcounted hverifyRun hlive hfound]
      exact byPublic
  rw [hready.verify_eq hlive hfound hcandidate, haccepts]

/-- An engine with two contexts. -/
def twoContexts : List Step :=
  [.newEngine "engine" none,
    .createContext "first" "engine" false (.document (.object [])),
    .createContext "second" "engine" false (.document (.object []))]

def generation : Step :=
  .generateRsa "engine" "key" 1057 Software.prime536 Software.prime521

/-- A signature is fed something else, then bound to the private half and fed a message in two
pieces. -/
def signerSteps : List Step :=
  [.signature "signer" (.updateAll (.given [9])),
    .signature "signer" (.start "key.private" true),
    .signature "signer" (.update (.given [0, 1, 2]) ⟨1, 2⟩),
    .signature "signer" (.updateAll (.given [3]))]

def untilSigned : List Step :=
  (twoContexts ++ [generation]) ++ .newSignature "signer" "first" "SHA-256" :: signerSteps

/-- Another signature is bound to the private half and refuses a candidate, and then it is bound to
the public half and fed the message behind an empty piece. -/
def verifierSteps : List Step :=
  [.signature "verifier" (.start "key.private" true),
    .signature "verifier" (.verify (.given [])),
    .signature "verifier" (.start "key.public" false),
    .signature "verifier" (.update (.given [7]) ⟨1, 0⟩),
    .signature "verifier" (.updateAll (.given [1, 2, 3]))]

def untilVerified : List Step :=
  (untilSigned ++ [.signature "signer" (.sign none)]) ++
    .newSignature "verifier" "second" "sha_256" :: verifierSteps

theorem generates_generation :
    ∃ pair, Generates 0 pair { privateKey := ⟨3⟩, publicKey := ⟨4⟩ } untilVerified := by
  have hregisters : (registered (pairFor 0 (({} : Session).after twoContexts) generation)
      ((({} : Session).after twoContexts).step generation).1).map Prod.fst = [⟨4⟩, ⟨3⟩] := by
    decide +kernel
  obtain ⟨pair, hasks, hanswered⟩ := answered_of_registered hregisters
  have hrun : untilVerified = twoContexts ++ generation ::
      (.newSignature "signer" "first" "SHA-256" :: signerSteps ++
        .signature "signer" (.sign none) ::
          .newSignature "verifier" "second" "sha_256" :: verifierSteps) := rfl
  rw [hrun]
  exact ⟨pair, .intro hasks hanswered
    ⟨Software.prime_prime536, Software.prime_prime521, by decide +kernel⟩⟩

theorem prepares_signer :
    Prepares "signer" 0 "SHA-256" ⟨3⟩ true [([0, 1, 2], ⟨1, 2⟩), ([3], ⟨0, 1⟩)] untilSigned := by
  have hshows : (⟨0, ⟨3⟩, .rsa, true⟩ : SoftwareKey).handle = ⟨3⟩ := rfl
  refine .intro rfl rfl ?_ ?_ ?_ (.intro 1 hshows ?_ ?_)
  · decide +kernel
  · decide +kernel
  · refine ⟨⟨?_, fun _ => id⟩, ⟨?_, fun _ => id⟩, ⟨?_, fun _ => id⟩, ⟨?_, fun _ => id⟩,
      trivial⟩ <;> decide +kernel
  · decide +kernel
  · decide +kernel

theorem prepares_verifier :
    Prepares "verifier" 0 "sha_256" ⟨4⟩ false [([7], ⟨1, 0⟩), ([1, 2, 3], ⟨0, 3⟩)]
      untilVerified := by
  have hshows : (⟨0, ⟨4⟩, .rsa, false⟩ : SoftwareKey).handle = ⟨4⟩ := rfl
  refine .intro rfl rfl ?_ ?_ ?_ (.intro 2 hshows ?_ ?_)
  · decide +kernel
  · decide +kernel
  · refine ⟨⟨?_, fun _ => id⟩, ⟨?_, fun _ => id⟩, ⟨?_, fun _ => id⟩, ⟨?_, fun _ => id⟩,
      ⟨?_, fun _ => id⟩, trivial⟩ <;> decide +kernel
  · decide +kernel
  · decide +kernel

theorem sign_verify_round_trip_paddings :
    ∃ signature,
      ((({} : Session).after untilSigned).step (.signature "signer" (.sign none))).1 =
        .ok (.bytes signature) ∧
      ((({} : Session).after untilVerified).step
        (.signature "verifier" (.verify (.given signature)))).1 = .ok (.flag true) := by
  have hissued : ((({} : Session).after untilVerified).world.softwareEngine? 0).map
      (·.issued) = some 6 := by
    decide +kernel
  have hkept : ((({} : Session).after untilVerified).world.softwareEngine? 0).map
      (·.keys.contains ⟨4⟩) = some true := by
    decide +kernel
  have hopens :
      ((({} : Session).after untilSigned).signatures.find? "signer").isSome = true := by
    decide +kernel
  have hsigns : ((({} : Session).after untilSigned).step
      (.signature "signer" (.sign none))).1.isOk = true := by
    decide +kernel
  obtain ⟨opened, hopened⟩ := Option.isSome_iff_exists.mp hopens
  obtain ⟨signature, hsigned⟩ := step_sign_of_isOk hopened hsigns
  obtain ⟨engine, hengine, hcount⟩ := Option.map_eq_some_iff.mp hissued
  rw [hengine, Option.map_some, Option.some.injEq] at hkept
  obtain ⟨pair, hgenerated⟩ := generates_generation
  have hprefix : untilSigned <+: untilVerified := ⟨_, (List.append_assoc _ _ _).symm⟩
  refine ⟨signature, hsigned, ?_⟩
  exact sign_verify_round_trip hengine (by rw [hcount]; decide) hgenerated prepares_signer hprefix
    prepares_verifier (List.prefix_refl _) (.inr rfl) hengine hkept (by decide +kernel)
    (by decide +kernel) (by decide +kernel) hsigned rfl

end SigningEngine.Session
