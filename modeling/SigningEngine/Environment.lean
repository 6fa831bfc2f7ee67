import SigningEngine.Bytes

/-!
# The environment of a process

Variables hold byte strings. A variable whose bytes encode no text counts as unset.
-/

namespace SigningEngine

/-- The text of a variable, if it is set. -/
abbrev Lookup := String → Option String

structure Environment where
  entries : List (String × Bytes)

namespace Environment

def lookup (env : Environment) : Lookup := fun name =>
  (env.entries.lookup name).bind Bytes.text?

end Environment

end SigningEngine
