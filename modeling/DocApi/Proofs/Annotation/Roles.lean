import DocApi.Proofs.Annotation.Pieces

/-!
# Tokens by their roles

Sorting the tokens of a line keeps their order within each role, and the role of a token shows in
the piece it is written as. A token that the reader of a line
takes out, wherever it stands, is found when nothing else looks like it, and what is left are the
other tokens. So the order in which the optional tokens of a line are written does not matter.
-/

namespace DocApi

/-! ## Sorting -/

namespace Token

/-- Whether a token is neither a tag nor a flag. -/
def isPositional : Token → Bool
  | .tag _ | .flag _ _ _ => false
  | _ => true

/-- The name of a tag. -/
def tagName? : Token → Option String
  | .tag name => some name
  | _ => none

/-- A token as a flag. -/
def flag? : Token → Option Flag
  | .flag key value inQuotes => some ⟨key, value, inQuotes⟩
  | _ => none

@[simp] theorem text_word (text : String) : (word text).text = text := rfl

@[simp] theorem text_quoted (text : String) : (quoted text).text = text := rfl

variable {token : Token}

theorem isPositional_of_isBare (bare : token.isBare = true) : token.isPositional = true := by
  cases token with
  | word text => rfl
  | typed name type => rfl
  | _ => cases bare

theorem tagName?_of_isPositional (positional : token.isPositional = true) :
    token.tagName? = none := by
  cases token with
  | tag name => cases positional
  | _ => rfl

theorem flag?_of_isPositional (positional : token.isPositional = true) : token.flag? = none := by
  cases token with
  | flag key value inQuotes => cases positional
  | _ => rfl

theorem isQuoted_of_isBare (bare : token.isBare = true) : token.isQuoted = false := by
  cases token with
  | word text => rfl
  | typed name type => rfl
  | _ => cases bare

theorem isParen_of_isBare (bare : token.isBare = true) : token.isParen = false := by
  cases token with
  | word text => rfl
  | typed name type => rfl
  | _ => cases bare

end Token

theorem LineTokens.ofTokens_eq (tokens : List Token) :
    ofTokens tokens = {
      positional := tokens.filter Token.isPositional
      tags := tokens.filterMap Token.tagName?
      flags := tokens.filterMap Token.flag? } := by
  induction tokens with
  | nil => rfl
  | cons token tokens induction =>
      cases token <;>
        simp [ofTokens, induction, List.filter_cons, List.filterMap_cons, Token.isPositional,
          Token.tagName?, Token.flag?]

theorem LineTokens.ofTokens_append (left right : List Token) :
    ofTokens (left ++ right) = {
      positional := (ofTokens left).positional ++ (ofTokens right).positional
      tags := (ofTokens left).tags ++ (ofTokens right).tags
      flags := (ofTokens left).flags ++ (ofTokens right).flags } := by
  simp [ofTokens_eq]

theorem LineTokens.ofTokens_of_positional {tokens : List Token}
    (placed : ∀ token ∈ tokens, token.isPositional = true) :
    ofTokens tokens = ⟨tokens, [], []⟩ := by
  have kept : tokens.filter Token.isPositional = tokens := List.filter_eq_self.2 placed
  have noTags : tokens.filterMap Token.tagName? = [] :=
    List.filterMap_eq_nil_iff.2 fun token member =>
      Token.tagName?_of_isPositional (placed token member)
  have noFlags : tokens.filterMap Token.flag? = [] :=
    List.filterMap_eq_nil_iff.2 fun token member =>
      Token.flag?_of_isPositional (placed token member)
  rw [ofTokens_eq, kept, noTags, noFlags]

@[simp] theorem restText_singleton (token : Token) : restText [token] = token.text := by
  simp [restText, joinWords]

namespace Piece

/-- Whether a piece is written neither as a tag nor as a flag. -/
def isPositional : Piece → Bool
  | .tag _ | .flag _ _ => false
  | _ => true

/-- The name of a tag. -/
def tagName? : Piece → Option String
  | .tag name => some name
  | _ => none

theorem isPositional_token {piece : Piece} (fits : piece.Fits) :
    piece.token.isPositional = piece.isPositional := by
  cases piece with
  | bare word => exact Token.isPositional_of_isBare (ClosedWord.isBare fits)
  | _ => rfl

theorem tagName?_token {piece : Piece} (fits : piece.Fits) :
    piece.token.tagName? = piece.tagName? := by
  cases piece with
  | bare word =>
      have positional := isPositional_token fits
      exact Token.tagName?_of_isPositional positional
  | _ => rfl

end Piece

namespace LineTokens

theorem tags_ofPieces {pieces : List Piece} (fits : ∀ piece ∈ pieces, piece.Fits) :
    (ofPieces pieces).tags = pieces.filterMap Piece.tagName? := by
  rw [ofPieces, ofTokens_eq, List.filterMap_map]
  exact List.filterMap_congr fun piece member => Piece.tagName?_token (fits piece member)

/-- Pieces at the front that are neither tags nor flags stay in front. -/
theorem ofPieces_append {front : List Piece} (fits : ∀ piece ∈ front, piece.Fits)
    (positional : ∀ piece ∈ front, piece.isPositional = true) (rest : List Piece) :
    ofPieces (front ++ rest) =
      ⟨front.map Piece.token ++ (ofPieces rest).positional, (ofPieces rest).tags,
        (ofPieces rest).flags⟩ := by
  have placed : ∀ token ∈ front.map Piece.token, token.isPositional = true :=
    List.forall_mem_map.2 fun piece member => by
      rw [Piece.isPositional_token (fits piece member), positional piece member]
  rw [ofPieces, List.map_append, ofTokens_append, ofTokens_of_positional placed]
  rfl

theorem ofPieces_cons {piece : Piece} (fits : piece.Fits) (positional : piece.isPositional = true)
    (rest : List Piece) :
    ofPieces (piece :: rest) =
      ⟨piece.token :: (ofPieces rest).positional, (ofPieces rest).tags, (ofPieces rest).flags⟩ :=
  ofPieces_append (List.forall_mem_singleton.2 fits) (List.forall_mem_singleton.2 positional) rest

theorem ofPieces_eq {pieces : List Piece} (fits : ∀ piece ∈ pieces, piece.Fits)
    (positional : ∀ piece ∈ pieces, piece.isPositional = true) :
    ofPieces pieces = ⟨pieces.map Piece.token, [], []⟩ := by
  have nothing := ofPieces_append fits positional []
  rw [List.append_nil] at nothing
  rw [nothing]
  simp [ofPieces, ofTokens]

theorem positional_of_perm {left right : List Piece} (order : left.Perm right) :
    (ofPieces left).positional.Perm (ofPieces right).positional := by
  rw [ofPieces, ofPieces, ofTokens_eq, ofTokens_eq]
  exact (order.map Piece.token).filter Token.isPositional

theorem flags_of_perm {left right : List Piece} (order : left.Perm right) :
    (ofPieces left).flags.Perm (ofPieces right).flags := by
  rw [ofPieces, ofPieces, ofTokens_eq, ofTokens_eq]
  exact (order.map Piece.token).filterMap Token.flag?

end LineTokens

/-! ## Taking out one token -/

/-- The only token that satisfies `p` is taken out. -/
theorem takeFirst_of_filter {p : Token → Bool} {tokens : List Token} {found : Option Token}
    (unique : tokens.filter p = found.toList) :
    takeFirst p tokens = found.map fun token => (token, tokens.filter (!p ·)) := by
  induction tokens with
  | nil =>
      have nothing : found = none := by simpa using unique.symm
      rw [nothing]
      rfl
  | cons token tokens induction =>
      by_cases hit : p token = true
      · rw [List.filter_cons_of_pos hit] at unique
        cases found with
        | none => simp at unique
        | some first =>
            obtain ⟨rfl, none⟩ := List.cons.inj unique
            have kept : tokens.filter (!p ·) = tokens := by
              rw [List.filter_eq_nil_iff] at none
              exact List.filter_eq_self.2 fun other member => by simpa using none other member
            simp [takeFirst, hit, kept]
      · rw [List.filter_cons_of_neg hit] at unique
        simp [takeFirst, hit, induction unique, Function.comp_def]

theorem eq_toList_of_perm {α : Type} {entries : List α} {found : Option α}
    (order : entries.Perm found.toList) : entries = found.toList := by
  cases found with
  | none => exact order.eq_nil
  | some entry => exact order.eq_singleton

/-- What stands out among others, in any order, is found by a filter, and the others are left. -/
theorem filter_of_perm {α : Type} {p : α → Bool} {entries others : List α} {found : Option α}
    (order : entries.Perm (found.toList ++ others)) (hit : ∀ entry ∈ found, p entry = true)
    (free : ∀ entry ∈ others, p entry = false) :
    entries.filter p = found.toList ∧ (entries.filter (!p ·)).Perm others := by
  constructor
  · have noOther : others.filter p = [] := by simpa [List.filter_eq_nil_iff] using free
    have kept : found.toList.filter p = found.toList := by simpa [List.filter_eq_self] using hit
    have hits := order.filter p
    rw [List.filter_append, kept, noOther, List.append_nil] at hits
    exact eq_toList_of_perm hits
  · have allOther : others.filter (!p ·) = others := by simpa [List.filter_eq_self] using free
    have gone : found.toList.filter (!p ·) = [] := by simpa [List.filter_eq_nil_iff] using hit
    have rest := order.filter (!p ·)
    rwa [List.filter_append, gone, allOther, List.nil_append] at rest

section Permuted

variable {p : Token → Bool} {front extras others : List Token} {found : Option Token}

/-- A token among others in any order, behind a fixed front, is taken out from where it stands. -/
theorem takeFirst_of_perm (order : extras.Perm (found.toList ++ others))
    (hit : ∀ token ∈ found, p token = true) (frontFree : ∀ token ∈ front, p token = false)
    (free : ∀ token ∈ others, p token = false) :
    takeFirst p (front ++ extras) =
        found.map (fun token => (token, front ++ extras.filter (!p ·))) ∧
      (extras.filter (!p ·)).Perm others := by
  obtain ⟨hits, rest⟩ := filter_of_perm order hit free
  have noFront : front.filter p = [] := by simpa [List.filter_eq_nil_iff] using frontFree
  have allFront : front.filter (!p ·) = front := by simpa [List.filter_eq_self] using frontFree
  have unique : (front ++ extras).filter p = found.toList := by
    rw [List.filter_append, noFront, List.nil_append, hits]
  refine ⟨?_, rest⟩
  rw [takeFirst_of_filter unique, List.filter_append, allFront]

theorem takeSwitch_of_perm {name : String} (order : extras.Perm (found.toList ++ others))
    (hit : ∀ token ∈ found, isSwitch name token = true)
    (frontFree : ∀ token ∈ front, isSwitch name token = false)
    (free : ∀ token ∈ others, isSwitch name token = false) :
    ∃ rest, takeSwitch name (front ++ extras) = (found.isSome, front ++ rest) ∧
      rest.Perm others := by
  obtain ⟨taken, rest⟩ := takeFirst_of_perm order hit frontFree free
  cases found with
  | none => exact ⟨extras, by simp [takeSwitch, taken], order⟩
  | some token => exact ⟨_, by simp [takeSwitch, taken], rest⟩

theorem takeQuoted_of_perm (order : extras.Perm (found.toList ++ others))
    (hit : ∀ token ∈ found, token.isQuoted = true)
    (frontFree : ∀ token ∈ front, token.isQuoted = false)
    (free : ∀ token ∈ others, token.isQuoted = false) :
    ∃ rest, takeQuoted (front ++ extras) = (found.map Token.text, front ++ rest) ∧
      rest.Perm others := by
  obtain ⟨taken, rest⟩ := takeFirst_of_perm order hit frontFree free
  cases found with
  | none => exact ⟨extras, by simp [takeQuoted, taken], order⟩
  | some token => exact ⟨_, by simp [takeQuoted, taken], rest⟩

theorem takeValues_of_perm (order : extras.Perm (found.toList ++ others))
    (hit : ∀ token ∈ found, token.isParen = true)
    (frontFree : ∀ token ∈ front, token.isParen = false)
    (free : ∀ token ∈ others, token.isParen = false) :
    ∃ rest, takeValues (front ++ extras) =
        (found.map fun token => readListedValues token.text, front ++ rest) ∧
      rest.Perm others := by
  obtain ⟨taken, rest⟩ := takeFirst_of_perm order hit frontFree free
  cases found with
  | none => exact ⟨extras, by simp [takeValues, taken], order⟩
  | some token => exact ⟨_, by simp [takeValues, taken], rest⟩

end Permuted

/-! ## Finding a flag -/

/-- A flag with a quoted value. -/
def quotedFlag (key : String) (value : Option String) : Option Flag :=
  value.map fun text => ⟨key, text, true⟩

theorem ofPieces_flagPieces (key : String) (value : Option String) :
    LineTokens.ofPieces (flagPieces key value) = ⟨[], [], (quotedFlag key value).toList⟩ := by
  cases value <;> rfl

theorem key_of_mem_quotedFlag {key : String} {value : Option String} {flag : Flag}
    (member : flag ∈ quotedFlag key value) : flag.key = key := by
  obtain ⟨text, -, rfl⟩ := Option.map_eq_some_iff.1 member
  rfl

theorem map_value_quotedFlag (key : String) (value : Option String) :
    (quotedFlag key value).map Flag.value = value := by
  cases value <;> rfl

theorem flagValue_of_findFlag {flags : List Flag} {key : String} {value : Option String}
    (found : findFlag flags key = quotedFlag key value) :
    flagValue flags key = value.map .string := by
  rw [flagValue, found]
  cases value <;> rfl

@[simp] theorem eqIgnoringCase_self (text : String) : eqIgnoringCase text text = true := by
  simp [eqIgnoringCase]

/-- A flag with a quoted value is found among others in any order. -/
theorem findFlag_of_perm {key : String} {value : Option String} {flags others : List Flag}
    (order : flags.Perm ((quotedFlag key value).toList ++ others))
    (free : ∀ flag ∈ others, eqIgnoringCase flag.key key = false) :
    findFlag flags key = quotedFlag key value := by
  have hit : ∀ flag ∈ quotedFlag key value, eqIgnoringCase flag.key key = true := by
    intro flag member
    rw [key_of_mem_quotedFlag member, eqIgnoringCase_self]
  rw [findFlag, ← List.head?_filter, (filter_of_perm order hit free).1]
  cases quotedFlag key value <;> rfl

end DocApi
