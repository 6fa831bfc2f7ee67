import SigningEngine.Text.Case
import SigningEngine.Text.Search

/-!
# Failures that an engine reports

An engine reports a failure by its text alone. One text has a meaning of its own: a context that
should run in FIPS mode and does not. It is recognised anywhere in the report and in any letter
case, by comparing upper-case forms.
-/

namespace SigningEngine

structure NativeError where
  message : String
  deriving DecidableEq, Repr

namespace NativeError

def notInFipsModePhrase : String := "Context is not in FIPS mode"

def isNotInFipsMode (e : NativeError) : Bool :=
  Text.occursIn (Text.upperChars notInFipsModePhrase.toList) (Text.upperChars e.message.toList)

end NativeError

end SigningEngine
