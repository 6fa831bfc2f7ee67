import SigningEngine.Json.Record
import Mathlib.Data.List.Basic

/-!
# Reading the members of an object as a record

An object lists some fields of a record, each once at most, among members of other names. The order
of the members does not matter: what is read is the record at hand with the listed fields taken
over. An object in which the name of a field occurs twice is no record, whatever else it holds.

The main statements are `readRecord_of_lists` and `readRecord_of_twice`.
-/

namespace SigningEngine.Json

variable {ρ : Type}

/-- The names of the members, in their order. -/
def listed (members : List (Text × Json)) : List String := members.filterMap Prod.fst

/-- The name occurs twice. -/
def ListsTwice (name : String) (members : List (Text × Json)) : Prop :=
  2 ≤ (members.map Prod.fst).count (some name)

instance (name : String) (members : List (Text × Json)) : Decidable (ListsTwice name members) :=
  inferInstanceAs (Decidable (_ ≤ _))

/-- The members have names, `holds` allows their values, and no field is listed twice. -/
structure Lists (names : List String) (holds : String → Json → Prop)
    (members : List (Text × Json)) : Prop where
  held : ∀ member ∈ members, ∃ name, member.1 = some name ∧ holds name member.2
  once : ∀ name ∈ names, ¬ ListsTwice name members

/-- The value of a field, taken over if it is named. -/
def fieldOver {α : Type} (names : List String) (field : String) (new old : α) : α :=
  if field ∈ names then new else old

section

variable {α : Type} {names : List String} {name field : String} {new old : α}

@[simp] theorem fieldOver_self : fieldOver [field] field new old = new :=
  if_pos List.mem_cons_self

theorem fieldOver_cons :
    fieldOver names field new (fieldOver [name] field new old) =
      fieldOver (name :: names) field new old := by
  by_cases hname : field = name
  · subst hname
    rw [fieldOver_self, fieldOver, fieldOver, ite_self, if_pos List.mem_cons_self]
  · simp [fieldOver, hname]

end

/-- Taking fields over into a record, where `holds` tells their values. -/
structure TakesOver (fields : List (Field ρ)) (holds : String → Json → Prop)
    (overlay : List String → ρ → ρ) : Prop where
  nil : ∀ record, overlay [] record = record
  cons : ∀ name names record,
    overlay names (overlay [name] record) = overlay (name :: names) record
  known : ∀ field ∈ fields, ∀ value record, holds field.name value →
    field.set? value record = some (overlay [field.name] record)
  unknown : ∀ name record, name ∉ fields.map (·.name) → overlay [name] record = record

section

variable {fields : List (Field ρ)} {holds : String → Json → Prop} {overlay : List String → ρ → ρ}
  {names seen : List String} {member : Text × Json} {members : List (Text × Json)} {name : String}
  {record : ρ}

theorem Lists.tail (h : Lists names holds (member :: members)) : Lists names holds members where
  held other hother := h.held other (List.mem_cons_of_mem _ hother)
  once name hname htwice := by
    refine h.once name hname (Nat.le_trans htwice ?_)
    rw [List.map_cons]
    exact List.count_le_count_cons

/-- A field listed first is listed nowhere else. -/
theorem Lists.not_mem_tail {value : Json} (h : Lists names holds ((some name, value) :: members))
    (hname : name ∈ names) : some name ∉ members.map Prod.fst := by
  intro hmem
  refine h.once name hname ?_
  rw [ListsTwice, List.map_cons, List.count_cons_self]
  exact Nat.succ_le_succ (List.count_pos_iff.mpr hmem)

theorem find?_eq_none_iff_not_mem :
    fields.find? (·.name == name) = none ↔ name ∉ fields.map (·.name) := by
  rw [List.find?_eq_none]
  simp

theorem readMembers_of_lists (hover : TakesOver fields holds overlay)
    (h : Lists (fields.map (·.name)) holds members)
    (hseen : ∀ name ∈ seen, some name ∉ members.map Prod.fst) :
    readMembers fields seen members record = some (overlay (listed members) record) := by
  induction members generalizing seen record with
  | nil => rw [readMembers, listed, List.filterMap_nil, hover.nil]
  | cons member rest ih =>
      obtain ⟨key, value⟩ := member
      obtain ⟨name, rfl, hholds⟩ := h.held _ List.mem_cons_self
      have hseen' : ∀ other ∈ seen, some other ∉ rest.map Prod.fst := fun other hother hmem =>
        hseen other hother (List.mem_cons_of_mem _ hmem)
      have hlisted : listed ((some name, value) :: rest) = name :: listed rest := rfl
      rw [readMembers, hlisted, ← hover.cons]
      cases hfound : fields.find? (·.name == name) with
      | none =>
          dsimp only
          rw [ih h.tail hseen', hover.unknown name record (find?_eq_none_iff_not_mem.mp hfound)]
      | some field =>
          have hfield : field ∈ fields := List.mem_of_find?_eq_some hfound
          obtain rfl : field.name = name := by simpa using List.find?_some hfound
          have hname : field.name ∈ fields.map (·.name) := List.mem_map_of_mem hfield
          have hunseen : seen.contains field.name = false := by
            rw [← Bool.not_eq_true, List.contains_iff_mem]
            exact fun hmem => hseen _ hmem List.mem_cons_self
          dsimp only
          rw [hunseen, if_neg Bool.false_ne_true, hover.known field hfield value record hholds,
            Option.bind_some, ih h.tail]
          intro other hother
          rcases List.mem_cons.mp hother with rfl | hother
          · exact h.not_mem_tail hname
          · exact hseen' other hother

/-- The name of a field may not occur twice, whether it was read before or is still to come. -/
theorem readMembers_of_repeated (hname : name ∈ fields.map (·.name))
    (h : 2 ≤ (if name ∈ seen then 1 else 0) + (members.map Prod.fst).count (some name)) :
    readMembers fields seen members record = none := by
  induction members generalizing seen record with
  | nil =>
      rw [List.map_nil, List.count_nil] at h
      split at h <;> omega
  | cons member rest ih =>
      obtain ⟨key, value⟩ := member
      cases key with
      | none => rw [readMembers]
      | some other =>
          rw [List.map_cons] at h
          rw [readMembers]
          cases hfound : fields.find? (·.name == other) with
          | none =>
              have hne : other ≠ name := by
                rintro rfl
                exact find?_eq_none_iff_not_mem.mp hfound hname
              rw [List.count_cons_of_ne (by simpa using hne)] at h
              exact ih h
          | some field =>
              dsimp only
              by_cases hcontains : seen.contains other = true
              · rw [if_pos hcontains]
              · rw [if_neg hcontains, Option.bind_eq_none_iff]
                refine fun next _ => ih ?_
                rw [List.contains_iff_mem] at hcontains
                by_cases hother : other = name
                · subst hother
                  rw [if_neg hcontains, List.count_cons_self] at h
                  rw [if_pos List.mem_cons_self]
                  omega
                · rw [List.count_cons_of_ne (by simpa using hother)] at h
                  simpa [Ne.symm hother] using h

theorem readRecord_of_lists (hover : TakesOver fields holds overlay)
    (h : Lists (fields.map (·.name)) holds members) :
    readRecord fields record (.object members) = some (overlay (listed members) record) :=
  readMembers_of_lists hover h fun _ hseen => (by cases hseen)

theorem readRecord_of_twice (hname : name ∈ fields.map (·.name)) (h : ListsTwice name members) :
    readRecord fields record (.object members) = none :=
  readMembers_of_repeated hname (by simpa [ListsTwice] using h)

end

end SigningEngine.Json
