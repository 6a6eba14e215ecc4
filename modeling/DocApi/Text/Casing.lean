import DocApi.Text.CaseTable

/-!
# Upper and lower case

Case is mapped character by character with the full Unicode mappings, so one character may become
several. The only mapping that looks at its surroundings is that of the capital sigma, which
becomes the final small sigma at the end of a word.
-/

namespace DocApi

/-- The image of `code` under the first run that holds it. -/
def CaseRun.image? (runs : List CaseRun) (code : Nat) : Option Nat :=
  (runs.find? fun run =>
    run.first ≤ code && code ≤ run.last && (code - run.first) % run.step == 0).map
    fun run => (Int.ofNat code + run.shift).toNat

/-- The full mapping of one character: an expansion, else the image of a run, else itself. -/
def mapCase (runs : List CaseRun) (expansions : List (Nat × List Nat)) (c : Char) : List Char :=
  match expansions.lookup c.toNat with
  | some codes => codes.map Char.ofNat
  | none => [((CaseRun.image? runs c.toNat).map Char.ofNat).getD c]

/-- The upper case of one character. -/
def upperChar (c : Char) : List Char :=
  if c.toNat < 0x80 then [c.toUpper] else mapCase upperRuns upperExpansions c

/-- The lower case of one character outside of any word. -/
def lowerChar (c : Char) : List Char :=
  if c.toNat < 0x80 then [c.toLower] else mapCase lowerRuns lowerExpansions c

/-- Whether the first character that is not case-ignorable is cased. -/
def casedNext : List Char → Bool
  | [] => false
  | c :: text => if caseIgnorableRanges.has c then casedNext text else casedRanges.has c

/-- The lower case of a text when the characters of `before` (in reverse) stand before it. -/
def lowerFrom (before : List Char) : List Char → List Char
  | [] => []
  | c :: text =>
      let image :=
        if c == 'Σ' then if casedNext before && !casedNext text then ['ς'] else ['σ']
        else lowerChar c
      image ++ lowerFrom (c :: before) text

/-- The upper case of a text. -/
def upperText (text : List Char) : List Char := text.flatMap upperChar

/-- The lower case of a text. -/
def lowerText (text : List Char) : List Char := lowerFrom [] text

end DocApi
