import SigningEngine.Bytes

/-!
# Slices of a buffer

A slice is given by an offset and a length, each a word of 64 bits. Their sum may be no word, so the
end of the slice is looked for with care.
-/

namespace SigningEngine

structure Span where
  offset : UInt64
  length : UInt64
  deriving DecidableEq, Repr

namespace Span

/-- All of a buffer. -/
def all (buffer : Bytes) : Span := ⟨0, UInt64.ofNat buffer.length⟩

/-- Where the slice ends, if that is a word: a sum that wraps around is less than its summands. -/
def stop? (span : Span) : Option UInt64 :=
  let stop := span.offset + span.length
  if stop < span.offset then none else some stop

/-- The bytes of the slice, if it lies within the buffer. -/
def slice? (span : Span) (buffer : Bytes) : Option Bytes :=
  match span.stop? with
  | none => none
  | some stop =>
    if stop.toNat ≤ buffer.length then
      some ((buffer.drop span.offset.toNat).take span.length.toNat)
    else none

theorem stop?_eq_some_iff {span : Span} {stop : UInt64} :
    span.stop? = some stop ↔ span.offset.toNat + span.length.toNat = stop.toNat := by
  have hoffset := span.offset.toNat_lt
  have hlength := span.length.toNat_lt
  have hstop := stop.toNat_lt
  have hsum : (span.offset + span.length).toNat =
      (span.offset.toNat + span.length.toNat) % 2 ^ 64 := UInt64.toNat_add _ _
  rw [stop?, Option.ite_none_left_eq_some, Option.some.injEq, UInt64.lt_iff_toNat_lt, hsum,
    ← UInt64.toNat_inj, hsum]
  omega

/-- The slice lies within the buffer. Its end is a word, as the lengths of buffers are. -/
def Within (span : Span) (buffer : Bytes) : Prop :=
  span.offset.toNat + span.length.toNat < UInt64.size ∧
    span.offset.toNat + span.length.toNat ≤ buffer.length

instance (span : Span) (buffer : Bytes) : Decidable (span.Within buffer) :=
  inferInstanceAs (Decidable (_ ∧ _))

/-- The bytes from the offset on, as many as the length says. -/
def cut (span : Span) (buffer : Bytes) : Bytes :=
  (buffer.drop span.offset.toNat).take span.length.toNat

theorem slice?_eq (span : Span) (buffer : Bytes) :
    span.slice? buffer = if span.Within buffer then some (span.cut buffer) else none := by
  cases hstop : span.stop? with
  | none =>
      have hlarge : ¬ span.offset.toNat + span.length.toNat < UInt64.size := by
        intro hsmall
        have hword : span.stop? = some (UInt64.ofNat (span.offset.toNat + span.length.toNat)) :=
          stop?_eq_some_iff.mpr (UInt64.toNat_ofNat_of_lt hsmall).symm
        rw [hstop] at hword
        cases hword
      rw [slice?, hstop, if_neg fun hwithin => hlarge hwithin.1]
  | some stop =>
      have hsum := stop?_eq_some_iff.mp hstop
      have hword : span.offset.toNat + span.length.toNat < UInt64.size := by
        rw [hsum]
        exact stop.toNat_lt_size
      simp only [slice?, hstop, Within, hsum, hsum ▸ hword, true_and]
      rfl

theorem slice?_all {buffer : Bytes} (h : buffer.length < UInt64.size) :
    (all buffer).slice? buffer = some buffer := by
  have hlength : (UInt64.ofNat buffer.length).toNat = buffer.length :=
    UInt64.toNat_ofNat_of_lt h
  rw [slice?_eq, if_pos]
  · simp [cut, all, hlength]
  · simp [Within, all, hlength, h]

end Span

end SigningEngine
