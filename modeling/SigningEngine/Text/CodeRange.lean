/-!
# Sets of code points

A property of characters is carried as the closed ranges of the code points that have it, in
ascending order. All tables below follow Unicode 17.0.
-/

namespace SigningEngine.Text

/-- Closed ranges of code points, ascending and apart. -/
abbrev CodeRanges := List (Nat × Nat)

namespace CodeRanges

def holds (ranges : CodeRanges) (c : Char) : Bool :=
  ranges.any fun (first, last) => first ≤ c.toNat && c.toNat ≤ last

@[simp] theorem holds_nil (c : Char) : holds [] c = false := rfl

@[simp] theorem holds_cons (first last : Nat) (ranges : CodeRanges) (c : Char) :
    holds ((first, last) :: ranges) c =
      ((decide (first ≤ c.toNat) && decide (c.toNat ≤ last)) || holds ranges c) := rfl

theorem holds_iff {ranges : CodeRanges} {c : Char} :
    holds ranges c = true ↔ ∃ r ∈ ranges, r.1 ≤ c.toNat ∧ c.toNat ≤ r.2 := by
  simp [holds, List.any_eq_true, Bool.and_eq_true, decide_eq_true_eq]

end CodeRanges

end SigningEngine.Text
