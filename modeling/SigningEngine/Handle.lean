/-!
# Handles

An engine hands out numbers for the state it keeps. Zero never names live state, so every handle is
checked against it before it is passed back.
-/

namespace SigningEngine

/-- The kinds of state that an engine keeps behind a handle. -/
inductive HandleKind where
  | context
  | digest
  | key
  deriving DecidableEq, Repr

@[ext]
structure Handle (kind : HandleKind) where
  raw : UInt64
  deriving DecidableEq, Repr

abbrev ContextHandle := Handle .context

abbrev DigestHandle := Handle .digest

abbrev KeyHandle := Handle .key

namespace Handle

variable {kind : HandleKind}

/-- The number that no engine gives to live state. -/
def invalid : Handle kind := ⟨0⟩

instance : Inhabited (Handle kind) := ⟨invalid⟩

def isValid (h : Handle kind) : Bool := h.raw != 0

def compare (a b : Handle kind) : Ordering := Ord.compare a.raw b.raw

/-- The number in decimal. -/
def text (h : Handle kind) : String := toString h.raw.toNat

def typeName : HandleKind → String
  | .context => "ContextHandle"
  | .digest => "DigestHandle"
  | .key => "KeyHandle"

/-- The form in diagnostic output. -/
def diagnostic (h : Handle kind) : String := typeName kind ++ "(" ++ h.text ++ ")"

theorem isValid_iff {h : Handle kind} : h.isValid = true ↔ h ≠ invalid := by
  simp [isValid, invalid, bne_iff_ne, Handle.ext_iff]

@[simp] theorem isValid_invalid : (invalid : Handle kind).isValid = false := rfl

end Handle

end SigningEngine
