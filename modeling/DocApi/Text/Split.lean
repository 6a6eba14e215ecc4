/-!
# Cutting text

The small operations that the line grammars share: cutting at the first occurrence of a character,
cutting at every character of a class, testing and removing a known beginning or end, and ASCII
lower case.
-/

namespace DocApi

/-- The text before and after the first `mark`, when there is one. -/
def cutAt (mark : Char) : List Char → Option (List Char × List Char)
  | [] => none
  | c :: text =>
      if c = mark then some ([], text)
      else (cutAt mark text).map fun (left, right) => (c :: left, right)

/-- The pieces between the characters that satisfy `cut`; there is one piece more than cuts. -/
def piecesBy (cut : Char → Bool) : List Char → List (List Char)
  | [] => [[]]
  | c :: text =>
      if cut c then [] :: piecesBy cut text
      else
        match piecesBy cut text with
        | [] => [[c]]
        | piece :: pieces => (c :: piece) :: pieces

/-- What follows `start`, when `text` starts with it. -/
def afterStart? : (start text : List Char) → Option (List Char)
  | [], text => some text
  | _ :: _, [] => none
  | s :: start, c :: text => if s = c then afterStart? start text else none

/-- What is removed at the front is exactly `start`. -/
theorem length_of_afterStart? {start text rest : List Char}
    (h : afterStart? start text = some rest) :
    start.length + rest.length = text.length := by
  fun_induction afterStart? start text with
  | case1 text => simp_all
  | case2 => simp at h
  | case3 start c text induction =>
      have := induction h
      simp only [List.length_cons]
      omega
  | case4 => simp at h

/-- What precedes `ending`, when `text` ends with it. -/
def beforeEnd? (ending text : List Char) : Option (List Char) :=
  (afterStart? ending.reverse text.reverse).map List.reverse

/-- What is removed at the end is exactly `ending`. -/
theorem length_of_beforeEnd? {ending text rest : List Char}
    (h : beforeEnd? ending text = some rest) : ending.length + rest.length = text.length := by
  obtain ⟨reversed, found, rfl⟩ := Option.map_eq_some_iff.1 h
  have := length_of_afterStart? found
  simpa using this

/-- Whether `text` starts with `start`. -/
def startsWith (start text : List Char) : Bool := (afterStart? start text).isSome

/-- The text with its ASCII capitals in lower case; all other characters stay. -/
def asciiLower (text : String) : String := String.ofList (text.toList.map Char.toLower)

/-- Equality up to the case of ASCII letters. -/
def eqIgnoringCase (left right : String) : Bool := asciiLower left == asciiLower right

end DocApi
