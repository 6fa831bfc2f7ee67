import SigningEngine.Json.Token

/-!
# Reading JSON texts

The tokens of a text drive a machine that holds the arrays and objects that are still open,
innermost first. It accepts when one value is complete and nothing is open, so how deep a text may
nest is not limited.
-/

namespace SigningEngine.Json

/-- An open array or object whose next item or member value is being read. -/
inductive Frame where
  | item (before : List Json)
  | member (before : List (Text × Json)) (key : Text)

/-- What the machine waits for; what stands before it is kept in reverse. -/
inductive Mode where
  /-- A value. -/
  | value
  /-- Behind the opening bracket of an array: its first item or its end. -/
  | firstItem
  /-- Behind the opening brace of an object: its first key or its end. -/
  | firstKey
  /-- Behind a comma of an object. -/
  | key (before : List (Text × Json))
  | colon (before : List (Text × Json)) (key : Text)
  /-- Behind a complete value. -/
  | complete (value : Json)

structure Machine where
  mode : Mode
  frames : List Frame

namespace Machine

def start : Machine := ⟨.value, []⟩

/-- The token starts a value, or is one. -/
def startValue (frames : List Frame) : Token → Option Machine
  | .scalar value => some ⟨.complete value, frames⟩
  | .text value => some ⟨.complete (.string value), frames⟩
  | .openArray => some ⟨.firstItem, frames⟩
  | .openObject => some ⟨.firstKey, frames⟩
  | _ => none

def step (m : Machine) (token : Token) : Option Machine :=
  match m.mode, token, m.frames with
  | .value, token, frames => startValue frames token
  | .firstItem, .closeArray, frames => some ⟨.complete (.array []), frames⟩
  | .firstItem, token, frames => startValue (.item [] :: frames) token
  | .firstKey, .closeObject, frames => some ⟨.complete (.object []), frames⟩
  | .firstKey, .text key, frames => some ⟨.colon [] key, frames⟩
  | .key before, .text key, frames => some ⟨.colon before key, frames⟩
  | .colon before key, .colon, frames => some ⟨.value, .member before key :: frames⟩
  | .complete value, .comma, .item before :: frames =>
    some ⟨.value, .item (value :: before) :: frames⟩
  | .complete value, .comma, .member before key :: frames =>
    some ⟨.key ((key, value) :: before), frames⟩
  | .complete value, .closeArray, .item before :: frames =>
    some ⟨.complete (.array (value :: before).reverse), frames⟩
  | .complete value, .closeObject, .member before key :: frames =>
    some ⟨.complete (.object ((key, value) :: before).reverse), frames⟩
  | _, _, _ => none

def run (m : Machine) : List Token → Option Machine
  | [] => some m
  | token :: rest => (m.step token).bind (·.run rest)

/-- The one value read, if none is open. -/
def result? (m : Machine) : Option Json :=
  match m.mode, m.frames with
  | .complete value, [] => some value
  | _, _ => none

@[simp] theorem run_nil (m : Machine) : m.run [] = some m := rfl

theorem run_append (m : Machine) (s t : List Token) :
    m.run (s ++ t) = (m.run s).bind (·.run t) := by
  induction s generalizing m with
  | nil => rfl
  | cons token rest ih =>
    simp only [List.cons_append, run]
    cases m.step token with
    | none => rfl
    | some next => exact ih next

end Machine

/-- The value that a text denotes, if it is a JSON text. -/
def read? (s : String) : Option Json := do
  let tokens ← tokens s.toList
  let final ← Machine.start.run tokens
  final.result?

end SigningEngine.Json
