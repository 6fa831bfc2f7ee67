/-!
# How sequences with failures end

A sequence gives a value exactly if each of its parts does, and the first part to fail gives the
failure of the whole. What is made of values or of failures changes nothing of this.
-/

namespace SigningEngine

variable {ε δ α β : Type} {x : Except ε α} {f : α → Except ε β} {result : β} {e : ε}

theorem bind_eq_ok_iff :
    x >>= f = .ok result ↔ ∃ value, x = .ok value ∧ f value = .ok result := by
  cases x with
  | error other => exact ⟨fun h => (by cases h), fun ⟨_, h, _⟩ => (by cases h)⟩
  | ok value =>
      constructor
      · exact fun h => ⟨value, rfl, h⟩
      · rintro ⟨_, ⟨⟩, h⟩
        exact h

/-- The first part to fail gives the failure of the whole. -/
theorem bind_eq_error_iff :
    x >>= f = .error e ↔ x = .error e ∨ ∃ value, x = .ok value ∧ f value = .error e := by
  cases x with
  | error other =>
      constructor
      · intro h
        cases h
        exact .inl rfl
      · rintro (⟨⟨⟩⟩ | ⟨_, ⟨⟩, _⟩)
        rfl
  | ok value =>
      constructor
      · exact fun h => .inr ⟨value, rfl, h⟩
      · rintro (⟨⟨⟩⟩ | ⟨_, ⟨⟩, h⟩)
        exact h

theorem map_eq_ok_iff {g : α → β} :
    x.map g = .ok result ↔ ∃ value, x = .ok value ∧ g value = result := by
  cases x with
  | error other => exact ⟨fun h => (by cases h), fun ⟨_, h, _⟩ => (by cases h)⟩
  | ok value => simp [Except.map]

theorem map_eq_error_iff {g : α → β} : x.map g = .error e ↔ x = .error e := by
  cases x <;> simp [Except.map]

theorem mapError_eq_ok_iff {g : ε → δ} {value : α} : x.mapError g = .ok value ↔ x = .ok value := by
  cases x with
  | error other => exact ⟨fun h => (by cases h), fun h => (by cases h)⟩
  | ok found => exact ⟨fun h => (by cases h; rfl), fun h => (by cases h; rfl)⟩

theorem mapError_eq_error_iff {g : ε → δ} {d : δ} :
    x.mapError g = .error d ↔ ∃ e, x = .error e ∧ g e = d := by
  cases x with
  | error other =>
      constructor
      · intro h
        cases h
        exact ⟨other, rfl, rfl⟩
      · rintro ⟨e, h, rfl⟩
        cases h
        rfl
  | ok found => exact ⟨fun h => (by cases h), fun ⟨_, h, _⟩ => (by cases h)⟩

theorem exists_error_iff {x : Except ε Unit} : (∃ e, x = .error e) ↔ x ≠ .ok () := by
  cases x with
  | error e => exact ⟨fun _ h => (by cases h), fun _ => ⟨e, rfl⟩⟩
  | ok => exact ⟨fun ⟨_, h⟩ => (by cases h), fun h => absurd rfl h⟩

section Traversal

variable {g : α → Except ε Unit} {p : α → Bool} {l : List α}

theorem forM_eq_ok_iff : l.forM g = .ok () ↔ ∀ a ∈ l, g a = .ok () := by
  induction l with
  | nil => exact ⟨fun _ _ h => (by cases h), fun _ => rfl⟩
  | cons a rest ih =>
      rw [List.forM_eq_forM] at ih ⊢
      rw [List.forM_cons, bind_eq_ok_iff, List.forall_mem_cons, ← ih]
      exact ⟨fun ⟨_, ha, hrest⟩ => ⟨ha, hrest⟩, fun ⟨ha, hrest⟩ => ⟨_, ha, hrest⟩⟩

/-- The first element to fail gives the failure of the whole. -/
theorem forM_eq_error_iff :
    l.forM g = .error e ↔ ∃ before a after, l = before ++ a :: after ∧
      (∀ b ∈ before, g b = .ok ()) ∧ g a = .error e := by
  induction l with
  | nil => exact ⟨fun h => (by cases h), fun ⟨_, _, _, h, _⟩ => by simp at h⟩
  | cons a rest ih =>
      rw [List.forM_eq_forM] at ih ⊢
      rw [List.forM_cons, bind_eq_error_iff, ih]
      constructor
      · rintro (ha | ⟨_, ha, before, b, after, rfl, hbefore, hb⟩)
        · exact ⟨[], a, rest, rfl, fun _ h => (by cases h), ha⟩
        · exact ⟨a :: before, b, after, rfl, List.forall_mem_cons.mpr ⟨ha, hbefore⟩, hb⟩
      · rintro ⟨before, b, after, hsplit, hbefore, hb⟩
        cases before with
        | nil =>
            cases hsplit
            exact .inl hb
        | cons first before =>
            cases hsplit
            obtain ⟨hfirst, hbefore⟩ := List.forall_mem_cons.mp hbefore
            exact .inr ⟨_, hfirst, before, b, after, rfl, hbefore, hb⟩

end Traversal

end SigningEngine
