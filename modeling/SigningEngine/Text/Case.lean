import SigningEngine.Text.CasedTable
import SigningEngine.Text.CaseTable

/-!
# Upper and lower case of texts

Both mappings are the full ones: a character may become several. Upper case works character by
character. Lower case does so too with one exception: a capital sigma at the end of a word has a
form of its own, so the result of lower-casing a text depends on the order of its characters.
-/

namespace SigningEngine.Text

/-- The image of one character: an expansion if it has one, else the shift of its run, else the
character itself. -/
def mapCase (expansions : List (Nat × List Nat)) (runs : List CaseRun) (c : Char) : List Char :=
  match expansions.lookup c.toNat with
  | some codes => codes.map Char.ofNat
  | none =>
    match runs.find? (·.covers c.toNat) with
    | some run => [Char.ofNat (run.image c.toNat)]
    | none => [c]

def upperChar (c : Char) : List Char := mapCase upperExpansions upperRuns c

def lowerChar (c : Char) : List Char := mapCase lowerExpansions lowerRuns c

def isCased (c : Char) : Bool := casedRanges.holds c

def isCaseIgnorable (c : Char) : Bool := caseIgnorableRanges.holds c

/-- Behind any case-ignorable characters comes a cased one. -/
def startsCased (s : List Char) : Bool := (s.dropWhile isCaseIgnorable).head?.any isCased

/-- Lower case of what follows `before`, which is kept in reverse. -/
def lowerAfter (before : List Char) : List Char → List Char
  | [] => []
  | c :: rest =>
    let image :=
      if c = 'Σ' then if startsCased before && !startsCased rest then ['ς'] else ['σ']
      else lowerChar c
    image ++ lowerAfter (c :: before) rest

def upperChars (s : List Char) : List Char := s.flatMap upperChar

def lowerChars (s : List Char) : List Char := lowerAfter [] s

def lower (s : String) : String := String.ofList (lowerChars s.toList)

/-- Lower case of the letters A to Z; every other character stays. -/
def lowerAscii (s : String) : String := String.ofList (s.toList.map Char.toLower)

@[simp] theorem upperChars_append (s t : List Char) :
    upperChars (s ++ t) = upperChars s ++ upperChars t := List.flatMap_append

end SigningEngine.Text
