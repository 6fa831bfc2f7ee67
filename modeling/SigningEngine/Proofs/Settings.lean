import SigningEngine.Configuration
import SigningEngine.Proofs.Except
import SigningEngine.Proofs.Text.LetterCase
import SigningEngine.Proofs.Text.Numerals
import SigningEngine.Proofs.Text.Trimming

/-!
# What the readers of settings accept

A count is a numeral with blanks around it, and a flag or a policy one of the words for its value,
in any letter case, with blanks around it. A setting is what its variable denotes, or its default if
the variable is unset; a variable offends by a text that denotes nothing.

The main statements are `ofVariable_eq_ok_iff` and `ofVariable_eq_error_iff`.
-/

namespace SigningEngine

namespace Setting

open Text (TrimsTo Numeral HasFault)

variable {α : Type} {lookup : Lookup} {name text : String}

/-- The setting is what the variable denotes, or the default if it is unset. -/
def Gives (lookup : Lookup) (name : String) (unset : α) (denotes : String → α → Prop)
    (value : α) : Prop :=
  (lookup name = none ∧ value = unset) ∨ ∃ text, lookup name = some text ∧ denotes text value

/-- The variable is set to a text that is refused with the error. -/
def Offends (lookup : Lookup) (name : String) (refused : String → ConfigError → Prop)
    (e : ConfigError) : Prop :=
  ∃ text, lookup name = some text ∧ refused text e

theorem ofVariable_eq_ok_iff {unset value : α} {read : String → String → Except ConfigError α}
    {denotes : String → α → Prop}
    (hread : ∀ text, read name text = .ok value ↔ denotes text value) :
    ofVariable lookup name unset read = .ok value ↔ Gives lookup name unset denotes value := by
  rw [ofVariable, Gives]
  cases lookup name with
  | none => simp [eq_comm]
  | some text => simp [hread]

theorem ofVariable_eq_error_iff {unset : α} {read : String → String → Except ConfigError α}
    {refused : String → ConfigError → Prop} {e : ConfigError}
    (hread : ∀ text, read name text = .error e ↔ refused text e) :
    ofVariable lookup name unset read = .error e ↔ Offends lookup name refused e := by
  rw [ofVariable, Offends]
  cases lookup name with
  | none => simp
  | some text => simp [hread]

/-! ### Counts -/

/-- The text is a numeral of the count, with blanks around it. -/
def IsCount (text : String) (count : UInt32) : Prop :=
  ∃ word, TrimsTo text word ∧ Numeral word.toList count.toNat

/-- The text, without the blanks around it, is no numeral of a count, and the error says why. -/
def IsNoCount (name text : String) (e : ConfigError) : Prop :=
  ∃ word fault, TrimsTo text word ∧ HasFault UInt32.size word.toList fault ∧
    e = .badCount name fault

theorem readUInt32_eq_ok_iff {word : String} {count : UInt32} :
    Text.readUInt32 word = .ok count ↔ Numeral word.toList count.toNat := by
  have hread {n : Nat} : Text.readNumeral UInt32.size word.toList = .ok n ↔
      Numeral word.toList n ∧ n < UInt32.size := Text.readNumeral_eq_ok_iff (by decide)
  rw [Text.readUInt32, map_eq_ok_iff]
  constructor
  · rintro ⟨n, hn, rfl⟩
    obtain ⟨hnumeral, hlt⟩ := hread.mp hn
    rwa [UInt32.toNat_ofNat_of_lt' hlt]
  · intro hnumeral
    exact ⟨_, hread.mpr ⟨hnumeral, count.toNat_lt_size⟩, UInt32.ofNat_toNat⟩

theorem readCount_eq_ok_iff {count : UInt32} :
    readCount name text = .ok count ↔ IsCount text count := by
  rw [readCount, mapError_eq_ok_iff, readUInt32_eq_ok_iff]
  constructor
  · exact fun hnumeral => ⟨_, Text.trim_eq_iff.mp rfl, hnumeral⟩
  · rintro ⟨word, htrims, hnumeral⟩
    rwa [Text.trim_eq_iff.mpr htrims]

theorem readUInt32_eq_error_iff {word : String} {fault : Text.NumeralError} :
    Text.readUInt32 word = .error fault ↔ HasFault UInt32.size word.toList fault :=
  map_eq_error_iff.trans (Text.readNumeral_eq_error_iff (by decide))

theorem readCount_eq_error_iff {e : ConfigError} :
    readCount name text = .error e ↔ IsNoCount name text e := by
  rw [readCount, mapError_eq_error_iff]
  constructor
  · rintro ⟨fault, hfault, rfl⟩
    exact ⟨_, fault, Text.trim_eq_iff.mp rfl, readUInt32_eq_error_iff.mp hfault, rfl⟩
  · rintro ⟨word, fault, htrims, hfault, rfl⟩
    rw [Text.trim_eq_iff.mpr htrims]
    exact ⟨fault, readUInt32_eq_error_iff.mpr hfault, rfl⟩

/-! ### Words -/

/-- The text, trimmed and in lower case, is one of the words for the value. -/
def IsWordFor (words : α → List String) (text : String) (value : α) : Prop :=
  ∃ word, TrimsTo text word ∧ Text.lower word ∈ words value

/-- The text, trimmed and in lower case, is none of the words for any value, and the error names
it. -/
def IsNoWord (words : α → List String) (error : String → ConfigError) (text : String)
    (e : ConfigError) : Prop :=
  ∃ word, TrimsTo text word ∧ (∀ value, Text.lower word ∉ words value) ∧ e = error word

theorem isWordFor_iff {words : α → List String} {value : α} :
    IsWordFor words text value ↔ Text.lower (Text.trim text) ∈ words value := by
  constructor
  · rintro ⟨word, htrims, hword⟩
    rwa [Text.trim_eq_iff.mpr htrims]
  · exact fun hword => ⟨_, Text.trim_eq_iff.mp rfl, hword⟩

theorem isNoWord_iff {words : α → List String} {error : String → ConfigError} {e : ConfigError} :
    IsNoWord words error text e ↔
      (∀ value, Text.lower (Text.trim text) ∉ words value) ∧ e = error (Text.trim text) := by
  constructor
  · rintro ⟨word, htrims, hwords, rfl⟩
    rw [Text.trim_eq_iff.mpr htrims]
    exact ⟨hwords, rfl⟩
  · exact fun h => ⟨_, Text.trim_eq_iff.mp rfl, h⟩

section Choice

variable {word : String} {e : ConfigError}

/-- Of two values the one is chosen that the word is for. -/
theorem choice_eq_ok_iff (words : α → List String) (first second : α) {value : α}
    (hvalue : value = first ∨ value = second)
    (hapart : ∀ word ∈ words second, word ∉ words first) :
    (if word ∈ words first then .ok first
      else if word ∈ words second then .ok second else .error e) = Except.ok value ↔
      word ∈ words value := by
  by_cases hfirst : word ∈ words first
  · rw [if_pos hfirst, Except.ok.injEq]
    rcases hvalue with rfl | rfl
    · exact ⟨fun _ => hfirst, fun _ => rfl⟩
    · exact ⟨fun h => h ▸ hfirst, fun h => absurd hfirst (hapart word h)⟩
  · rw [if_neg hfirst]
    by_cases hsecond : word ∈ words second
    · rw [if_pos hsecond, Except.ok.injEq]
      rcases hvalue with rfl | rfl
      · exact ⟨fun h => h ▸ hsecond, fun h => absurd h hfirst⟩
      · exact ⟨fun _ => hsecond, fun _ => rfl⟩
    · rw [if_neg hsecond]
      rcases hvalue with rfl | rfl
      · exact ⟨fun h => (by cases h), fun h => absurd h hfirst⟩
      · exact ⟨fun h => (by cases h), fun h => absurd h hsecond⟩

theorem choice_eq_error_iff (words : α → List String) (first second : α) {d : ConfigError}
    (hvalues : ∀ value, value = first ∨ value = second) :
    (if word ∈ words first then .ok first
      else if word ∈ words second then .ok second else .error e) = Except.error d ↔
      (∀ value, word ∉ words value) ∧ d = e := by
  by_cases hfirst : word ∈ words first
  · rw [if_pos hfirst]
    exact ⟨fun h => (by cases h), fun h => absurd hfirst (h.1 first)⟩
  · rw [if_neg hfirst]
    by_cases hsecond : word ∈ words second
    · rw [if_pos hsecond]
      exact ⟨fun h => (by cases h), fun h => absurd hsecond (h.1 second)⟩
    · rw [if_neg hsecond, Except.error.injEq, eq_comm]
      refine (and_iff_right fun value => ?_).symm
      rcases hvalues value with rfl | rfl
      · exact hfirst
      · exact hsecond

end Choice

/-- The words for a flag. -/
def flagWords : Bool → List String
  | true => ["1", "true", "yes", "on"]
  | false => ["0", "false", "no", "off"]

theorem readFlag_eq_ok_iff {flag : Bool} :
    readFlag name text = .ok flag ↔ IsWordFor flagWords text flag := by
  rw [isWordFor_iff, readFlag]
  generalize Text.lower (Text.trim text) = word
  exact choice_eq_ok_iff flagWords true false (by cases flag <;> simp) (by decide)

theorem readFlag_eq_error_iff {e : ConfigError} :
    readFlag name text = .error e ↔
      IsNoWord flagWords (fun word => .badFlag name (Text.lower word)) text e := by
  rw [isNoWord_iff, readFlag]
  generalize Text.lower (Text.trim text) = word
  exact choice_eq_error_iff flagWords true false fun flag => by cases flag <;> simp

/-- Words of plain characters are told in any case of ASCII letters, and in no other spelling. -/
theorem lower_mem_iff {words : List String} {s : String}
    (h : words.all (·.toList.all Text.isPlain) = true) :
    Text.lower s ∈ words ↔ Text.lowerAscii s ∈ words := by
  constructor
  · intro hmem
    rwa [(Text.lower_eq_iff (List.all_eq_true.mp h _ hmem)).mp rfl]
  · intro hmem
    rwa [(Text.lower_eq_iff (List.all_eq_true.mp h _ hmem)).mpr rfl]

end Setting

end SigningEngine
