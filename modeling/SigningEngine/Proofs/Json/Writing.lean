import SigningEngine.Json.Writer
import SigningEngine.Proofs.Json.Reading

/-!
# Reading what was written

What is written for a value spells it: every text is escaped so that it can be told from the quote
that ends it, and a number has no zeros in front. So a value that was written is read back, if the
fractions and exponents of its numbers are such.

The main statement is `read?_write`.
-/

namespace SigningEngine.Json

/-! ### Texts -/

theorem spellsPiece_controlEscape {c : Char} (h : c.toNat < 0x20) :
    SpellsPiece (controlEscape c) (.char c) := by
  have hdigits : ∀ code < 0x20, List.replicate (4 - (Text.hexNumeral code).length) '0' ++
      Text.hexNumeral code = ['0', '0', Text.hexDigit (code / 16), Text.hexDigit (code % 16)] := by
    decide
  have hunit : SpellsUnit (List.replicate (4 - (Text.hexNumeral c.toNat).length) '0' ++
      Text.hexNumeral c.toNat) c.toNat := by
    have hhigh : Text.hexValue? (Text.hexDigit (c.toNat / 16)) = some (c.toNat / 16) :=
      Text.hexValue?_hexDigit (by omega)
    have hlow : Text.hexValue? (Text.hexDigit (c.toNat % 16)) = some (c.toNat % 16) :=
      Text.hexValue?_hexDigit (by omega)
    have hcode : c.toNat = 0 * 4096 + 0 * 256 + c.toNat / 16 * 16 + c.toNat % 16 := by omega
    rw [hdigits c.toNat h]
    nth_rewrite 3 [hcode]
    exact .digits rfl rfl hhigh hlow
  have hspells := SpellsPiece.unit hunit (by rw [IsHalf]; omega)
  rwa [Char.ofNat_toNat] at hspells

theorem spellsPiece_writtenChar (c : Char) : SpellsPiece (writtenChar c) (.char c) := by
  unfold writtenChar
  split
  case h_8 hquote hslash _ _ _ _ _ =>
    split
    next hcontrol => exact spellsPiece_controlEscape hcontrol
    next hcontrol => exact .plain (Nat.le_of_not_lt hcontrol) hquote hslash
  all_goals exact .letter (by decide)

theorem spellsPieces_written (s : List Char) :
    SpellsPieces (s.flatMap writtenChar) (s.map Piece.char) := by
  induction s with
  | nil => exact .nil
  | cons c rest ih => exact .cons (spellsPiece_writtenChar c) ih

theorem joins_chars {s t : List Char} : Joins (s.map Piece.char) t ↔ s = t := by
  rw [joins_iff]
  have hjoin : joinPieces (s.map Piece.char) = some s := by
    induction s with
    | nil => rfl
    | cons c rest ih => rw [List.map_cons, joinPieces, ih, Option.map_some]
  rw [hjoin, Option.some.injEq]

theorem spellsText_written (value : Text) : SpellsText (writtenText value) value := by
  cases value with
  | some s =>
      refine ⟨_, _, rfl, spellsPieces_written s.toList, fun text => ?_⟩
      rw [joins_chars, Option.some.injEq, String.toList_inj]
  | none =>
      have hunit : SpellsUnit ['d', '8', '0', '0'] 0xD800 :=
        .digits (i := 13) (j := 8) (k := 0) (l := 0) rfl rfl rfl rfl
      have hhalf : SpellsPiece ['\\', 'u', 'd', '8', '0', '0'] (.half 0xD800) :=
        .half hunit (by rw [IsHalf]; decide)
      refine ⟨_, _, rfl, .cons hhalf .nil, fun text => ?_⟩
      rw [joins_iff]
      exact ⟨fun h => (by cases h), fun h => (by cases h)⟩

theorem spellsName_written (value : Text) : SpellsName (writtenText value) value :=
  ⟨[], writtenText value, [], by simp, rfl, rfl, spellsText_written value⟩

/-! ### Numbers -/

/-- A decimal numeral has no zero in front of other digits. -/
theorem toDigits_leading (n : Nat) (h : (Nat.toDigits 10 n).head? = some '0') :
    Nat.toDigits 10 n = ['0'] := by
  induction n using Nat.strongRecOn with
  | ind n ih =>
      by_cases hsmall : n < 10
      · rw [Nat.toDigits_of_lt_base hsmall] at h ⊢
        rw [Option.some.inj h]
      · rw [Nat.toDigits_of_base_le (by decide) (Nat.le_of_not_lt hsmall),
          List.head?_append_of_ne_nil _ Nat.toDigits_ne_nil] at h
        have hvalue : Nat.ofDigitChars 10 (Nat.toDigits 10 (n / 10)) 0 = n / 10 :=
          Nat.ofDigitChars_ten_toDigits
        rw [ih (n / 10) (by omega) h] at hvalue
        have hzero : 0 = n / 10 := hvalue
        omega

theorem spellsWhole_toString (n : Nat) : SpellsWhole (toString n).toList n := by
  rw [Nat.toString_eq_ofList_toDigits, String.toList_ofList]
  refine ⟨⟨Nat.toDigits_ne_nil, List.all_eq_true.mpr fun c hc => ?_⟩, toDigits_leading n, ?_⟩
  · exact Nat.isDigit_of_mem_toDigits (by decide) (by decide) hc
  · exact Nat.ofDigitChars_ten_toDigits

/-- The tail is a fraction and an exponent, or either, or nothing. -/
def Number.HasTail (n : Number) : Prop :=
  ∃ fraction exponent, IsFraction fraction ∧ IsExponent exponent ∧
    n.tail.toList = fraction ++ exponent

theorem spellsNumber_written {n : Number} (h : n.HasTail) : SpellsNumber (writtenNumber n) n := by
  obtain ⟨fraction, exponent, hfraction, hexponent, htail⟩ := h
  refine ⟨(toString n.whole).toList, fraction, exponent, ?_, spellsWhole_toString n.whole,
    hfraction, hexponent, htail⟩
  rw [writtenNumber, htail, List.append_assoc]

/-! ### Values -/

/-- The numbers of the value are numbers of the grammar. -/
inductive Proper : Json → Prop
  | null : Proper .null
  | bool (b : Bool) : Proper (.bool b)
  | number {n : Number} : n.HasTail → Proper (.number n)
  | string (value : Text) : Proper (.string value)
  | array {items : List Json} : (∀ item ∈ items, Proper item) → Proper (.array items)
  | object {members : List (Text × Json)} :
      (∀ member ∈ members, Proper member.2) → Proper (.object members)

theorem proper_nat (n : Nat) : Proper (nat n) :=
  .number ⟨[], [], .inl rfl, .inl rfl, rfl⟩

theorem proper_record {members : List (String × Json)} (h : ∀ member ∈ members, Proper member.2) :
    Proper (record members) :=
  .object (List.forall_mem_map.mpr h)

/-- A member as it is written. -/
def writtenMember (member : Text × Json) : Member where
  nameSpelling := writtenText member.1
  name := member.1
  valueSpelling := written member.2
  value := member.2

theorem written_items (item : Json) (items : List Json) :
    written item ++ writtenItems items =
      [','].intercalate ((item :: items).map written) ++ [']'] := by
  induction items generalizing item with
  | nil => simp [writtenItems]
  | cons next others ih =>
      rw [List.map_cons, List.map_cons, List.intercalate_cons_cons, ← List.map_cons, writtenItems,
        List.cons_append, ih]
      simp

theorem written_members (member : Text × Json) (members : List (Text × Json)) :
    writtenText member.1 ++ ':' :: written member.2 ++ writtenMembers members =
      [','].intercalate (((member :: members).map writtenMember).map Member.spelling) ++
        ['\x7d'] := by
  induction members generalizing member with
  | nil => simp [writtenMembers, writtenMember, Member.spelling]
  | cons next others ih =>
      rw [List.map_cons, List.map_cons, List.map_cons, List.map_cons, List.intercalate_cons_cons,
        ← List.map_cons, ← List.map_cons, List.append_assoc _ _ ['\x7d'], ← ih next]
      simp [writtenMembers, writtenMember, Member.spelling]

/-- What is written for a value spells it. -/
theorem spells_written {value : Json} (h : Proper value) : Spells (written value) value := by
  induction h with
  | null => exact .null
  | bool b =>
      cases b with
      | true => exact .true
      | false => exact .false
  | number hn => exact .number (spellsNumber_written hn)
  | string value => exact .string (spellsText_written value)
  | @array items _ ih =>
      cases items with
      | nil => exact @Spells.noItems [] rfl
      | cons item more =>
          have hspells := @Spells.items ((item :: more).map fun v => (written v, v))
            (List.cons_ne_nil _ _) (List.forall_mem_map.mpr ih)
          rw [List.map_map, List.map_map] at hspells
          rw [written, List.cons_append, written_items]
          simpa [Function.comp_def] using hspells
  | @object members _ ih =>
      cases members with
      | nil => exact @Spells.noMembers [] rfl
      | cons member more =>
          obtain ⟨key, value⟩ := member
          have hspells := @Spells.members (((key, value) :: more).map writtenMember)
            (List.cons_ne_nil _ _)
            (List.forall_mem_map.mpr fun member _ => spellsName_written member.1)
            (List.forall_mem_map.mpr ih)
          have hentries : (((key, value) :: more).map writtenMember).map Member.entry =
              (key, value) :: more := by
            rw [List.map_map]
            exact List.map_id _
          have hwritten := written_members (key, value) more
          rw [hentries, List.cons_append, ← hwritten] at hspells
          rw [written]
          exact hspells

/-- A value that was written is read back. -/
theorem read?_write {value : Json} (h : Proper value) : read? (write value) = some value := by
  refine read?_of_spells ?_
  rw [write, String.toList_ofList]
  exact spells_written h

end SigningEngine.Json
