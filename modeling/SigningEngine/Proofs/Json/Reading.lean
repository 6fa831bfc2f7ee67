import SigningEngine.Json.Reader
import SigningEngine.Proofs.Json.Scanning

/-!
# Reading what the grammar spells

A machine that awaits a value has read the value once it has read a text that spells it, whatever
text follows and whatever is open around it. So a text that spells a value is read as that value,
and no text spells two.

The main statement is `read?_of_spells`.
-/

namespace SigningEngine.Json

namespace Machine

/-- The machine once it has read the text. -/
def read (m : Machine) (s : List Char) : Option Machine := (tokens s).bind m.run

/-- A value comes next, and `frames` is what will be open behind it. -/
def Awaits (m : Machine) (frames : List Frame) : Prop :=
  ∀ token next, startValue frames token = some next → m.step token = some next

section Tokens

variable {m : Machine} {s rest : List Char}

@[simp] theorem read_nil (m : Machine) : m.read [] = some m := by
  rw [read, tokens, Option.bind_some, run_nil]

theorem read_blanks {before : List Char} (h : IsBlanks before) :
    m.read (before ++ s) = m.read s := by
  induction before with
  | nil => rfl
  | cons c more ih =>
      simp only [IsBlanks, List.all_cons, Bool.and_eq_true] at h
      rw [← ih h.2, List.cons_append, read, tokens, if_pos h.1, read]

/-- No token starts with a blank. -/
theorem not_isBlank_of_scan {c : Char} {found : Token × List Char}
    (h : scan (c :: s) = some found) : isBlank c = false := by
  cases hc : isBlank c with
  | false => rfl
  | true =>
      simp only [isBlank, Bool.or_eq_true, decide_eq_true_eq] at hc
      rcases hc with ((rfl | rfl) | rfl) | rfl <;> cases h

theorem read_scan {token : Token} (h : scan s = some (token, rest)) :
    m.read s = (m.step token).bind (·.read rest) := by
  cases s with
  | nil => cases h
  | cons c t =>
      have htokens : tokens (c :: t) = (tokens rest).map (token :: ·) := by
        rw [tokens, if_neg (by simp [not_isBlank_of_scan h])]
        split
        next hnone => rw [h] at hnone; cases hnone
        next other behind hother =>
          rw [h, Option.some.injEq, Prod.mk.injEq] at hother
          rw [hother.1, hother.2]
      rw [read, htokens]
      cases htoken : tokens rest with
      | none => simp [read, htoken]
      | some more => simp [read, htoken, run]

end Tokens

section Values

variable {m : Machine} {frames : List Frame} {s rest : List Char}

theorem awaits_value (frames : List Frame) : Awaits ⟨.value, frames⟩ frames := fun _ _ h => h

theorem awaits_firstItem (frames : List Frame) :
    Awaits ⟨.firstItem, frames⟩ (.item [] :: frames) := by
  intro token next h
  cases token with
  | closeArray => cases h
  | _ => exact h

/-- The text is read as the value wherever a value may stand. -/
def ReadsAs (s : List Char) (value : Json) : Prop :=
  ∀ {m : Machine} {frames : List Frame} {rest : List Char}, m.Awaits frames → EndsNumber rest →
    m.read (s ++ rest) = read ⟨.complete value, frames⟩ rest

theorem endsNumber_cons {c : Char} (h : c ∈ [',', ':', ']', '\x7d']) : EndsNumber (c :: rest) := by
  rintro _ ⟨⟩
  simp only [List.mem_cons, List.not_mem_nil, or_false] at h
  rcases h with rfl | rfl | rfl | rfl <;> decide

theorem endsNumber_blanks {blanks : List Char} (h : IsBlanks blanks) (hrest : EndsNumber rest) :
    EndsNumber (blanks ++ rest) := by
  refine head?_append_of (fun c hc => ?_) hrest
  have hblank : isBlank c = true := List.all_eq_true.mp h c (List.mem_of_head? hc)
  simp only [isBlank, Bool.or_eq_true, decide_eq_true_eq] at hblank
  rcases hblank with ((rfl | rfl) | rfl) | rfl <;> decide

theorem read_scalar {value : Json} (hm : m.Awaits frames)
    (h : scan s = some (.scalar value, rest)) :
    m.read s = read ⟨.complete value, frames⟩ rest := by
  rw [read_scan h, hm (.scalar value) _ rfl, Option.bind_some]

theorem scan_number {n : Number} (h : SpellsNumber s n) (hrest : EndsNumber rest) :
    scan (s ++ rest) = some (.scalar (.number n), rest) := by
  have hscan := scanNumber_append h hrest
  obtain ⟨c, t, rfl, hc⟩ := h.head
  have hne (d : Char) (hd : d ≠ '-' ∧ d.isDigit = false) : c ≠ d := by
    rintro rfl
    rcases hc with rfl | hdigit
    · exact hd.1 rfl
    · rw [hd.2] at hdigit
      cases hdigit
  rw [List.cons_append] at hscan ⊢
  rw [scan, hscan]
  · rfl
  all_goals
    intro more heq
    exact hne _ (by decide) (List.cons.inj heq).1

theorem scan_text {value : Text} (h : SpellsText s value) :
    scan (s ++ rest) = some (.text value, rest) := by
  obtain ⟨behind, hs, hscan⟩ := scanText_append h
  rw [hs, scan, hscan, Option.map_some]

/-- The items behind those already read, and the end of the array. -/
theorem read_items {items : List (List Char × Json)} (hne : items ≠ [])
    (hitems : ∀ item ∈ items, ReadsAs item.1 item.2) {before : List Json}
    (hm : m.Awaits (.item before :: frames)) :
    m.read ([','].intercalate (items.map Prod.fst) ++ ']' :: rest) =
      read ⟨.complete (.array (before.reverse ++ items.map Prod.snd)), frames⟩ rest := by
  induction items generalizing m before with
  | nil => exact absurd rfl hne
  | cons item more ih =>
      have hitem : ReadsAs item.1 item.2 := hitems item List.mem_cons_self
      cases more with
      | nil =>
          rw [List.map_singleton, List.intercalate_singleton,
            hitem hm (endsNumber_cons (by simp)), read_scan rfl]
          simp [step]
      | cons next others =>
          rw [List.map_cons, List.map_cons, List.intercalate_cons_cons, ← List.map_cons]
          simp only [List.append_assoc, List.cons_append, List.nil_append]
          rw [hitem hm (endsNumber_cons (by simp)), read_scan rfl]
          have hrest := ih (List.cons_ne_nil next others)
            (fun other hother => hitems other (List.mem_cons_of_mem _ hother))
            (awaits_value (.item (item.2 :: before) :: frames))
          simpa [step] using hrest

/-- The machine takes the name of a member next, behind the members already read. -/
def AwaitsName (m : Machine) (before : List (Text × Json)) (frames : List Frame) : Prop :=
  ∀ name, m.step (.text name) = some ⟨.colon before name, frames⟩

theorem awaitsName_firstKey (frames : List Frame) : AwaitsName ⟨.firstKey, frames⟩ [] frames :=
  fun _ => rfl

theorem awaitsName_key (before : List (Text × Json)) (frames : List Frame) :
    AwaitsName ⟨.key before, frames⟩ before frames :=
  fun _ => rfl

/-- A member up to the end of its value. -/
theorem read_member {member : Member} {before : List (Text × Json)}
    (hname : SpellsName member.nameSpelling member.name)
    (hvalue : ReadsAs member.valueSpelling member.value) (hm : m.AwaitsName before frames)
    (hrest : EndsNumber rest) :
    m.read (member.spelling ++ rest) =
      read ⟨.complete member.value, .member before member.name :: frames⟩ rest := by
  obtain ⟨blanks, literal, behind, hspelling, hblanks, hbehind, hliteral⟩ := hname
  rw [Member.spelling, hspelling]
  simp only [List.append_assoc, List.cons_append]
  rw [read_blanks hblanks, read_scan (scan_text hliteral), hm, Option.bind_some,
    read_blanks hbehind, read_scan rfl]
  exact hvalue (awaits_value _) hrest

/-- The members behind those already read, and the end of the object. -/
theorem read_members {members : List Member} (hne : members ≠ [])
    (hnames : ∀ member ∈ members, SpellsName member.nameSpelling member.name)
    (hvalues : ∀ member ∈ members, ReadsAs member.valueSpelling member.value)
    {before : List (Text × Json)} (hm : m.AwaitsName before frames) :
    m.read ([','].intercalate (members.map Member.spelling) ++ '\x7d' :: rest) =
      read ⟨.complete (.object (before.reverse ++ members.map Member.entry)), frames⟩ rest := by
  induction members generalizing m before with
  | nil => exact absurd rfl hne
  | cons member more ih =>
      have hname := hnames member List.mem_cons_self
      have hvalue : ReadsAs member.valueSpelling member.value :=
        hvalues member List.mem_cons_self
      cases more with
      | nil =>
          rw [List.map_singleton, List.intercalate_singleton,
            read_member hname hvalue hm (endsNumber_cons (by simp)), read_scan rfl]
          simp [step, Member.entry]
      | cons next others =>
          rw [List.map_cons, List.map_cons, List.intercalate_cons_cons, ← List.map_cons]
          simp only [List.append_assoc, List.cons_append, List.nil_append]
          rw [read_member hname hvalue hm (endsNumber_cons (by simp)), read_scan rfl]
          have hrest := ih (List.cons_ne_nil next others)
            (fun other hother => hnames other (List.mem_cons_of_mem _ hother))
            (fun other hother => hvalues other (List.mem_cons_of_mem _ hother))
            (awaitsName_key ((member.name, member.value) :: before) frames)
          simpa [step, Member.entry] using hrest

theorem readsAs_of_spells {value : Json} (h : Spells s value) : ReadsAs s value := by
  induction h with
  | null => exact fun hm _ => read_scalar hm rfl
  | true => exact fun hm _ => read_scalar hm rfl
  | false => exact fun hm _ => read_scalar hm rfl
  | number hnumber => exact fun hm hrest => read_scalar hm (scan_number hnumber hrest)
  | string htext =>
      intro m frames rest hm _
      rw [read_scan (scan_text htext), hm _ _ rfl, Option.bind_some]
  | noItems hblanks =>
      intro m frames rest hm _
      simp only [List.append_assoc, List.cons_append, List.nil_append]
      rw [read_scan rfl, hm _ _ rfl, Option.bind_some, read_blanks hblanks, read_scan rfl]
      rfl
  | items hne _ ih =>
      intro m frames rest hm _
      simp only [List.append_assoc, List.cons_append, List.nil_append]
      rw [read_scan rfl, hm _ _ rfl, Option.bind_some, read_items hne ih (awaits_firstItem frames)]
      rfl
  | noMembers hblanks =>
      intro m frames rest hm _
      simp only [List.append_assoc, List.cons_append, List.nil_append]
      rw [read_scan rfl, hm _ _ rfl, Option.bind_some, read_blanks hblanks, read_scan rfl]
      rfl
  | members hne hnames _ ih =>
      intro m frames rest hm _
      simp only [List.append_assoc, List.cons_append, List.nil_append]
      rw [read_scan rfl, hm _ _ rfl, Option.bind_some,
        read_members hne hnames ih (awaitsName_firstKey frames)]
      rfl
  | padded hbefore hbehind _ ih =>
      intro m frames rest hm hrest
      rw [List.append_assoc, List.append_assoc, read_blanks hbefore,
        ih hm (endsNumber_blanks hbehind hrest), read_blanks hbehind]

end Values

end Machine

/-- A text that spells a value is read as that value. -/
theorem read?_of_spells {s : String} {value : Json} (h : Spells s.toList value) :
    read? s = some value := by
  have hend : EndsNumber [] := by rintro c ⟨⟩
  have hread := Machine.readsAs_of_spells h (Machine.awaits_value []) hend
  rw [List.append_nil, Machine.read_nil, Machine.read] at hread
  have hresult : read? s = ((tokens s.toList).bind Machine.start.run).bind Machine.result? := by
    rw [read?]
    cases tokens s.toList <;> rfl
  rw [hresult, Machine.start, hread]
  rfl

end SigningEngine.Json
