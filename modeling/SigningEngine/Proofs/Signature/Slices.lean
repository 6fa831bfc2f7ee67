import Mathlib.Data.List.Forall2
import SigningEngine.Proofs.Signature.Operation
import SigningEngine.World

/-!
# Feeding slices of a buffer

An update names a slice of its buffer by an offset and a length, whose sum may be no word. The
update is accepted exactly if the slice ends within the buffer, where the sum is taken as a natural
number. The engine is then called once, with the bytes of the slice; a refused update calls nothing
and changes nothing.

Slices that follow one another from the first byte to the last tile a buffer. Their bytes are the
buffer in pieces, and a failed update ends no process, so fed one after the other they reach the
engine as the whole buffer does.

The main statement is `update_iff_ends_within`.
-/

namespace SigningEngine

namespace Span

variable {span : Span} {buffer data : Bytes}

/-- The data are the bytes of the buffer that the slice names. -/
def Selects (span : Span) (buffer data : Bytes) : Prop :=
  ∃ before after, buffer = before ++ data ++ after ∧
    before.length = span.offset.toNat ∧ data.length = span.length.toNat

theorem selects_iff :
    span.Selects buffer data ↔
      span.offset.toNat + span.length.toNat ≤ buffer.length ∧ data = span.cut buffer := by
  constructor
  · rintro ⟨before, after, rfl, hbefore, hdata⟩
    refine ⟨by simp only [List.length_append]; omega, ?_⟩
    rw [cut, ← hbefore, ← hdata, List.append_assoc, List.drop_left, List.take_left]
  · rintro ⟨hends, rfl⟩
    refine ⟨buffer.take span.offset.toNat,
      (buffer.drop span.offset.toNat).drop span.length.toNat, ?_, ?_, ?_⟩
    · rw [cut, List.append_assoc, List.take_append_drop, List.take_append_drop]
    · rw [List.length_take]
      omega
    · rw [cut, List.length_take, List.length_drop]
      omega

/-- In a buffer whose length is a word no slice ends past the last word. -/
theorem within_iff (hbuffer : buffer.length < UInt64.size) :
    span.Within buffer ↔ span.offset.toNat + span.length.toNat ≤ buffer.length :=
  ⟨And.right, fun hends => ⟨Nat.lt_of_le_of_lt hends hbuffer, hends⟩⟩

/-- The slices follow one another from the position to the end of the buffer. -/
def Tiles (buffer : Bytes) : Nat → List Span → Prop
  | position, [] => position = buffer.length
  | position, span :: rest =>
    span.offset.toNat = position ∧ Tiles buffer (position + span.length.toNat) rest

namespace Tiles

variable {position : Nat} {spans : List Span}

theorem position_le (h : Tiles buffer position spans) : position ≤ buffer.length := by
  induction spans generalizing position with
  | nil => exact Nat.le_of_eq h
  | cons span rest ih => exact Nat.le_trans (Nat.le_add_right _ _) (ih h.2)

/-- Slices that tile end within the buffer. -/
theorem ends_within (h : Tiles buffer position spans) {span : Span} (hspan : span ∈ spans) :
    span.offset.toNat + span.length.toNat ≤ buffer.length := by
  induction spans generalizing position with
  | nil => cases hspan
  | cons first rest ih =>
      obtain ⟨hfirst, hrest⟩ := h
      cases hspan with
      | head =>
          rw [hfirst]
          exact hrest.position_le
      | tail _ hmem => exact ih hrest hmem

/-- What the slices cut out, put together, is what the buffer holds from the position on. -/
theorem flatten_cut (h : Tiles buffer position spans) :
    (spans.map (·.cut buffer)).flatten = buffer.drop position := by
  induction spans generalizing position with
  | nil => exact (List.drop_of_length_le (Nat.le_of_eq (Eq.symm h))).symm
  | cons span rest ih =>
      obtain ⟨hspan, hrest⟩ := h
      rw [List.map_cons, List.flatten_cons, ih hrest, cut, hspan, ← List.drop_drop,
        List.take_append_drop]

end Tiles

end Span

namespace Signature

variable {σ κ : Type} (boundary : Boundary σ κ)

/-- The call that feeds data to the digest. -/
def feedCall (signature : Signature κ) (data : Bytes) : NativeCall :=
  .digestUpdate signature.digest.context signature.digest.handle data

/-- The update makes one call, which feeds the data, and ends as the call does: a report of the
engine becomes an operation error. The signature stays as it is. -/
def Forwards (signature : Signature κ) (buffer : Bytes) (span : Span) (state : σ) (data : Bytes) :
    Prop :=
  signature.turn boundary (.update buffer span) state =
    ({ operation := .update buffer span
       outcome := Failure.ofReply
         (fun e => .operation
           (signature.digest.algorithm ++ " digest update failed: " ++ e.message))
         (boundary.replyTo (signature.feedCall data) state)
       calls := [signature.feedCall data] },
      signature, boundary.behind (signature.feedCall data) state)

/-- The update ends with the error for a bad argument. No call is made and nothing changes. -/
def Refuses (signature : Signature κ) (buffer : Bytes) (span : Span) (state : σ) : Prop :=
  ∃ message,
    signature.turn boundary (.update buffer span) state =
      ({ operation := .update buffer span
         outcome := .error (.error (.invalidArgument message))
         calls := [] },
        signature, state)

variable {boundary} {signature : Signature κ} {buffer : Bytes} {span : Span} {state : σ}

theorem forwards_of_within (h : span.Within buffer) :
    signature.Forwards boundary buffer span state (span.cut buffer) := by
  rw [Forwards, turn_update, if_pos h]
  rfl

theorem refuses_of_not_within (h : ¬ span.Within buffer) :
    signature.Refuses boundary buffer span state := by
  obtain ⟨message, hmessage⟩ : ∃ message, badSlice buffer span = .invalidArgument message :=
    ⟨_, rfl⟩
  exact ⟨message, by rw [turn_update, if_neg h, hmessage]⟩

/-- No update both makes a call and is refused. -/
theorem Forwards.not_refuses {data : Bytes}
    (hforwards : signature.Forwards boundary buffer span state data) :
    ¬ signature.Refuses boundary buffer span state := by
  rintro ⟨message, hrefuses⟩
  have hcalls := congrArg (·.1.calls) (hforwards.symm.trans hrefuses)
  cases hcalls

theorem Forwards.not_aborts {data : Bytes}
    (hforwards : signature.Forwards boundary buffer span state data) :
    (signature.turn boundary (.update buffer span) state).1.aborts = false := by
  rw [hforwards]
  unfold Turn.aborts
  split
  next habort => exact absurd habort (Failure.ofReply_ne_abort _ _)
  next => rfl

theorem forwards_iff (hbuffer : buffer.length < UInt64.size) :
    (∃ data, span.Selects buffer data ∧ signature.Forwards boundary buffer span state data) ↔
      span.offset.toNat + span.length.toNat ≤ buffer.length := by
  constructor
  · rintro ⟨data, hselects, -⟩
    exact (Span.selects_iff.mp hselects).1
  · intro hends
    exact ⟨_, Span.selects_iff.mpr ⟨hends, rfl⟩,
      forwards_of_within ((Span.within_iff hbuffer).mpr hends)⟩

theorem refuses_iff (hbuffer : buffer.length < UInt64.size) :
    signature.Refuses boundary buffer span state ↔
      buffer.length < span.offset.toNat + span.length.toNat := by
  constructor
  · intro hrefuses
    refine Nat.lt_of_not_le fun hends => ?_
    have hwithin := (Span.within_iff hbuffer).mpr hends
    exact (forwards_of_within hwithin).not_refuses hrefuses
  · intro hends
    exact refuses_of_not_within fun hwithin => Nat.not_le_of_lt hends hwithin.2

/-- Each slice within the buffer is fed by one call, however the calls before it ended. -/
theorem turns_update_calls {spans : List Span} (h : ∀ span ∈ spans, span.Within buffer) :
    (signature.turns boundary (spans.map (.update buffer)) state).1.flatMap Turn.calls =
      (spans.map (·.cut buffer)).map signature.feedCall := by
  induction spans generalizing state with
  | nil => rfl
  | cons span rest ih =>
      have hforwards : signature.Forwards boundary buffer span state (span.cut buffer) :=
        forwards_of_within (h span List.mem_cons_self)
      rw [List.map_cons, turns_cons boundary signature _ hforwards.not_aborts, hforwards]
      simp only [List.flatMap_cons, List.map_cons,
        ih fun span hspan => h span (List.mem_cons_of_mem _ hspan), List.cons_append,
        List.nil_append]

theorem updateAll_calls (hbuffer : buffer.length < UInt64.size) :
    ((signature.updateAll boundary buffer).outcome { state }).2.calls.toList =
      [signature.feedCall buffer] := by
  have hall := Span.slice?_all hbuffer
  rw [updateAll, update, hall]
  simp only [Digest.outcome_update]
  rfl

/-- An update calls the engine, with exactly the bytes of its slice, if the slice ends within the
buffer, and is refused if it does not. Slices that tile the buffer are fed piece by piece, one call
for each, and the pieces put together are what feeding the whole buffer sends in one call. -/
theorem update_iff_ends_within (signature : Signature κ) (buffer : Bytes) (state : σ)
    (hbuffer : buffer.length < UInt64.size) :
    (∀ span : Span,
      ((∃ data, span.Selects buffer data ∧ signature.Forwards boundary buffer span state data) ↔
        span.offset.toNat + span.length.toNat ≤ buffer.length) ∧
      (signature.Refuses boundary buffer span state ↔
        buffer.length < span.offset.toNat + span.length.toNat)) ∧
    ((signature.updateAll boundary buffer).outcome { state }).2.calls.toList =
      [signature.feedCall buffer] ∧
    ∀ spans, Span.Tiles buffer 0 spans →
      ∃ pieces, List.Forall₂ (fun span data => span.Selects buffer data) spans pieces ∧
        (signature.turns boundary (spans.map (.update buffer)) state).1.flatMap Turn.calls =
          pieces.map signature.feedCall ∧
        pieces.flatten = buffer := by
  refine ⟨fun span => ⟨forwards_iff hbuffer, refuses_iff hbuffer⟩, updateAll_calls hbuffer,
    fun spans htiles => ⟨spans.map (·.cut buffer), ?_, ?_, ?_⟩⟩
  · rw [List.forall₂_map_right_iff, List.forall₂_same]
    exact fun span hspan => Span.selects_iff.mpr ⟨htiles.ends_within hspan, rfl⟩
  · exact turns_update_calls fun span hspan =>
      (Span.within_iff hbuffer).mpr (htiles.ends_within hspan)
  · exact htiles.flatten_cut

/-- An engine that takes whatever it is fed. -/
def answering : World := { engines := #[.scripted {}] }

/-- A slice whose offset and length add up to a word past the last one is refused, and an empty one at
the end succeeds; pieces of a buffer, among them empty ones at both ends, tile it. -/
theorem update_iff_ends_within_wrapping :
    let signature : Signature Key := { digest := ⟨⟨1⟩, ⟨2⟩, "SHA-256"⟩ }
    let buffer : Bytes := [10, 20, 30]
    buffer.length < UInt64.size ∧
      signature.Refuses (World.boundary 0) buffer ⟨18446744073709551615, 2⟩ answering ∧
      (∃ data, Span.Selects ⟨3, 0⟩ buffer data ∧
        signature.Forwards (World.boundary 0) buffer ⟨3, 0⟩ answering data) ∧
      ((signature.update (World.boundary 0) buffer ⟨3, 0⟩).outcome { state := answering }).1 =
        .ok () ∧
      ∃ pieces : List Bytes, pieces.length = 4 ∧
        (signature.turns (World.boundary 0)
            (([⟨0, 0⟩, ⟨0, 1⟩, ⟨1, 2⟩, ⟨3, 0⟩] : List Span).map (.update buffer))
            answering).1.flatMap Turn.calls = pieces.map signature.feedCall ∧
        pieces.flatten = buffer := by
  intro signature buffer
  have hbuffer : buffer.length < UInt64.size := by decide
  obtain ⟨hupdate, -, htiles⟩ :=
    @update_iff_ends_within _ _ (World.boundary 0) signature buffer answering hbuffer
  obtain ⟨pieces, hselects, hcalls, hflatten⟩ :=
    htiles [⟨0, 0⟩, ⟨0, 1⟩, ⟨1, 2⟩, ⟨3, 0⟩] ⟨rfl, rfl, rfl, rfl, rfl⟩
  exact ⟨hbuffer, (hupdate _).2.mpr (by decide), (hupdate _).1.mpr (by decide), rfl, pieces,
    hselects.length_eq.symm, hcalls, hflatten⟩

end Signature

end SigningEngine
