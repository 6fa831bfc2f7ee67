import SigningEngine.Json.Basic

/-!
# Records in JSON documents

A document for a record lists some of its fields and leaves the others at their defaults. As an
object it names the fields it lists: a name that the record does not have is passed over together
with its value, and a field that occurs twice makes the document invalid. As an array it gives
values for the first fields in the order of their declaration.
-/

namespace SigningEngine.Json

/-- A field of the record type `ρ`: its name, and how its value is read into a record. -/
structure Field (ρ : Type) where
  name : String
  set? : Json → ρ → Option ρ

namespace Field

def of (name : String) (read : Json → Option α) (set : α → ρ → ρ) : Field ρ where
  name
  set? value record := (read value).map (set · record)

end Field

variable {ρ : Type}

/-- `seen` holds the names of the fields already read. -/
def readMembers (fields : List (Field ρ)) :
    List String → List (Text × Json) → ρ → Option ρ
  | _, [], record => some record
  | _, (none, _) :: _, _ => none
  | seen, (some key, value) :: members, record =>
    match fields.find? (·.name == key) with
    | none => readMembers fields seen members record
    | some field =>
      if seen.contains key then none
      else (field.set? value record).bind (readMembers fields (key :: seen) members)

def readItems : List (Field ρ) → List Json → ρ → Option ρ
  | _, [], record => some record
  | [], _ :: _, _ => none
  | field :: fields, value :: values, record =>
    (field.set? value record).bind (readItems fields values)

/-- The record that a document describes over the defaults. -/
def readRecord (fields : List (Field ρ)) (defaults : ρ) : Json → Option ρ
  | .object members => readMembers fields [] members defaults
  | .array values => readItems fields values defaults
  | _ => none

end SigningEngine.Json
