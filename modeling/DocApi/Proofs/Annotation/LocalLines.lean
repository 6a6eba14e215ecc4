import DocApi.Proofs.Annotation.Pieces
import DocApi.Proofs.Annotation.Roles

/-!
# Lines about one operation or model

How the annotations that describe one operation or one model are written. Behind its fixed front a
line has optional pieces, which may stand in any order. Every line written like this is read as the
annotation it was written for.
-/

namespace DocApi

/-! ## Optional pieces -/

/-- The word `name` when a switch is on. -/
def switchPieces (name : String) (on : Bool) : List Piece := if on then [.bare name] else []

/-- A parenthesised list of values when there is one. -/
def valuesPieces (values : Option (List String)) (gaps : List (List Char)) : List Piece :=
  (values.map fun texts => Piece.values texts gaps).toList

/-- The arrow and the identifier of an operation when it has one. -/
def operationPieces (operationId : Option String) : List Piece :=
  match operationId with
  | none => []
  | some word => [.arrow, .bare word]

/-- Whether the values of a list and the gaps between them can be written. -/
def WritableValues (values : Option (List String)) (gaps : List (List Char)) : Prop :=
  (∀ texts ∈ values, ∀ text ∈ texts, IsListable text) ∧ ∀ gap ∈ gaps, IsGap gap

/-- The values of a list as they are read. -/
def textValues (values : Option (List String)) : Option (List Json) :=
  values.map fun texts => texts.map .string

/-- The verb of a response. -/
def Outcome.verb : Outcome → String
  | .success => "ok"
  | .failure => "error"

/-- A line about one operation or model: the annotation, its verb in lower case, and the pieces
that the annotation is written with. Where the pieces end with `extras`, these may stand in any
order. -/
inductive LocalLine : Annotation → String → List Piece → Prop
  /-- The tags keep their order among each other. -/
  | route (method : Method) (path : String) (operationId : Option String) (summary : String)
      (tags : List String) (deprecated : Bool) (extras : List Piece)
      (pathCloses : ClosedWord path) (pathPlain : eqIgnoringCase path "deprecated" = false)
      (idCloses : ∀ word ∈ operationId, ClosedWord word)
      (idPlain : ∀ word ∈ operationId, eqIgnoringCase word "deprecated" = false)
      (tagsClose : ∀ name ∈ tags, LexesAlone ('#' :: name.toList) (.tag name))
      (order : extras.Perm
        (switchPieces "deprecated" deprecated ++ .quoted summary :: tags.map .tag))
      (tagOrder : extras.filterMap Piece.tagName? = tags) :
      LocalLine
        (.route { method, path, operationId := operationId.getD "", summary, tags, deprecated })
        (asciiLower method.name) (.bare path :: operationPieces operationId ++ extras)
  | parameter (location : Location) (name type description : String) (required : Bool)
      (default example? : Option String) (values : Option (List String))
      (gaps : List (List Char)) (extras : List Piece)
      (typed : LexesAlone (name.toList ++ ':' :: type.toList) (.typed name type))
      (writable : WritableValues values gaps)
      (order : extras.Perm (switchPieces "required" required ++ valuesPieces values gaps ++
        .quoted description :: (flagPieces "default" default ++ flagPieces "example" example?))) :
      LocalLine
        (.parameter {
          name, location, type, description, required
          default := default.map .string
          example? := example?.map .string
          values := textValues values })
        location.word (.typed name type :: extras)
  | field (name type description : String) (required : Bool) (example? : Option String)
      (values : Option (List String)) (gaps : List (List Char)) (extras : List Piece)
      (typed : LexesAlone (name.toList ++ ':' :: type.toList) (.typed name type))
      (writable : WritableValues values gaps)
      (order : extras.Perm (switchPieces "required" required ++ valuesPieces values gaps ++
        .quoted description :: flagPieces "example" example?)) :
      LocalLine
        (.field {
          name, description, required
          type := some type
          example? := example?.map .string
          values := textValues values })
        "field" (.typed name type :: extras)
  /-- The name and the type of a schema are two words, or one typed name. -/
  | schema (name type description : String) (format example? : Option String)
      (values : Option (List String)) (gaps : List (List Char)) (front extras : List Piece)
      (named : front = [.bare name, .bare type] ∧ LexesAlone name.toList (.word name) ∧
          ClosedWord type ∨
        front = [.typed name type] ∧
          LexesAlone (name.toList ++ ':' :: type.toList) (.typed name type))
      (writable : WritableValues values gaps)
      (order : extras.Perm (valuesPieces values gaps ++
        .quoted description :: (flagPieces "format" format ++ flagPieces "example" example?))) :
      LocalLine
        (.schema {
          name, type, description, format
          example? := example?.map .string
          values := textValues values })
        "schema" (front ++ extras)
  | body (schema description : String) (required : Bool) (extras : List Piece)
      (closed : ClosedWord schema) (plain : eqIgnoringCase schema "required" = false)
      (order : extras.Perm (switchPieces "required" required ++ [.quoted description])) :
      LocalLine (.body { schema, description, required }) "body" (.bare schema :: extras)
  /-- Without a status the line has that of its outcome; the schema is then no status itself. -/
  | response (outcome : Outcome) (status schema : Option String) (description : String)
      (extras : List Piece)
      (statusCounts : ∀ word ∈ status, isStatus word = true)
      (schemaCloses : ∀ word ∈ schema, ClosedWord word)
      (schemaPlain : status = none → ∀ word ∈ schema, isStatus word = false)
      (order : extras.Perm ((schema.map .bare).toList ++ [.quoted description])) :
      LocalLine
        (.response {
          outcome, description
          status := status.getD (LineTokens.defaultStatus outcome)
          schema := schema.getD "" })
        outcome.verb ((status.map .bare).toList ++ extras)
  | secure (schemes : List String) (nonempty : schemes ≠ [])
      (closed : ∀ scheme ∈ schemes, ClosedWord scheme) :
      LocalLine (.secure schemes) "secure" (schemes.map .bare)
  | model (description : String) : LocalLine (.model description) "model" [.quoted description]

variable {meaning : Annotation} {word : String} {pieces : List Piece}

/-! ## What the pieces satisfy -/

theorem closedWord_deprecated : ClosedWord "deprecated" :=
  closedWord_of_lexesAlone
    (lexesAlone_of_isAlphanum (by decide) (List.all_eq_true.1 (by decide)))

theorem closedWord_required : ClosedWord "required" :=
  closedWord_of_lexesAlone
    (lexesAlone_of_isAlphanum (by decide) (List.all_eq_true.1 (by decide)))

theorem isAlphanum_of_eqIgnoringCase {word name : String} (same : eqIgnoringCase word name = true)
    (letters : ∀ c ∈ (asciiLower name).toList, c.isAlpha = true) :
    ∀ c ∈ word.toList, c.isAlphanum = true := by
  intro c member
  have lower : c.toLower ∈ (asciiLower name).toList := by
    rw [← beq_iff_eq.1 same]
    simpa [asciiLower] using ⟨c, member, rfl⟩
  have alpha := letters c.toLower lower
  rw [isAlpha_toLower] at alpha
  simp [Char.isAlphanum, alpha]

/-- A status is a word of letters and digits. -/
theorem isAlphanum_of_isStatus {word : String} (status : isStatus word = true) :
    word ≠ "" ∧ ∀ c ∈ word.toList, c.isAlphanum = true := by
  have nonempty : word ≠ "" := by
    rintro rfl
    revert status
    decide
  refine ⟨nonempty, ?_⟩
  rw [isStatus, Bool.or_eq_true] at status
  rcases status with named | code
  · exact isAlphanum_of_eqIgnoringCase named (List.all_eq_true.1 (by decide))
  · split at code
    · rename_i first second third spelled
      simp only [Bool.and_eq_true, decide_eq_true_eq] at code
      obtain ⟨⟨⟨low, high⟩, wildSecond⟩, wildThird⟩ := code
      have wild : ∀ c : Char, (c.isDigit || c == 'x' || c == 'X') = true → c.isAlphanum = true := by
        intro c member
        simp only [Bool.or_eq_true, beq_iff_eq] at member
        rcases member with (digit | rfl) | rfl
        · simp [Char.isAlphanum, digit]
        · decide
        · decide
      have digit : first.isDigit = true := by
        simp only [Char.isDigit, Bool.and_eq_true, decide_eq_true_eq]
        exact ⟨UInt32.le_trans (by decide : (48 : UInt32) ≤ 49) low,
          UInt32.le_trans high (by decide : (53 : UInt32) ≤ 57)⟩
      rw [spelled]
      simp only [List.forall_mem_cons]
      exact ⟨by simp [Char.isAlphanum, digit], wild _ wildSecond, wild _ wildThird,
        List.forall_mem_nil _⟩
    · cases code

theorem lexesAlone_of_isStatus {word : String} (status : isStatus word = true) :
    LexesAlone word.toList (.word word) :=
  lexesAlone_of_isAlphanum (isAlphanum_of_isStatus status).1 (isAlphanum_of_isStatus status).2

theorem fits_switchPieces {name : String} (closed : ClosedWord name) (on : Bool) :
    ∀ piece ∈ switchPieces name on, piece.Fits := by
  cases on with
  | false => exact List.forall_mem_nil _
  | true => simpa [switchPieces, Piece.Fits] using closed

theorem fits_valuesPieces {values : Option (List String)} {gaps : List (List Char)}
    (writable : WritableValues values gaps) :
    ∀ piece ∈ valuesPieces values gaps, piece.Fits := by
  cases values with
  | none => exact List.forall_mem_nil _
  | some texts => simpa [valuesPieces, Piece.Fits] using ⟨writable.1 texts rfl, writable.2⟩

theorem fits_optionalBare {word : Option String} (closed : ∀ text ∈ word, ClosedWord text) :
    ∀ piece ∈ (word.map Piece.bare).toList, piece.Fits := by
  cases word with
  | none => exact List.forall_mem_nil _
  | some text => simpa [Piece.Fits] using closed text rfl

theorem fits_operationPieces {operationId : Option String}
    (closed : ∀ word ∈ operationId, ClosedWord word) :
    ∀ piece ∈ operationPieces operationId, piece.Fits := by
  cases operationId with
  | none => exact List.forall_mem_nil _
  | some word => simpa [operationPieces, Piece.Fits] using closed word rfl

theorem fits_quoted_cons (text : String) {pieces : List Piece}
    (fits : ∀ piece ∈ pieces, piece.Fits) : ∀ piece ∈ Piece.quoted text :: pieces, piece.Fits :=
  List.forall_mem_cons.2 ⟨trivial, fits⟩

/-- Pieces in any order fit when they fit in the order in which they are listed. -/
theorem fits_append_of_perm {front extras listed : List Piece} (order : extras.Perm listed)
    (frontFits : ∀ piece ∈ front, piece.Fits) (fits : ∀ piece ∈ listed, piece.Fits) :
    ∀ piece ∈ front ++ extras, piece.Fits :=
  List.forall_mem_append.2 ⟨frontFits, fun piece member => fits piece (order.mem_iff.1 member)⟩

theorem LocalLine.fits (written : LocalLine meaning word pieces) :
    ∀ piece ∈ pieces, piece.Fits := by
  have single : ∀ piece : Piece, piece.Fits → ∀ other ∈ [piece], other.Fits :=
    fun _ fits => List.forall_mem_singleton.2 fits
  have flags : ∀ first second left right, isKey first.toList = true →
      isKey second.toList = true →
      ∀ piece ∈ flagPieces first left ++ flagPieces second right, piece.Fits :=
    fun _ _ _ _ first second => List.forall_mem_append.2
      ⟨fits_flagPieces first _, fits_flagPieces second _⟩
  cases written with
  | route _ _ _ summary _ deprecated _ pathCloses _ idCloses _ tagsClose order _ =>
      refine fits_append_of_perm order
        (List.forall_mem_cons.2 ⟨pathCloses, fits_operationPieces idCloses⟩) ?_
      refine List.forall_mem_append.2 ⟨fits_switchPieces closedWord_deprecated deprecated, ?_⟩
      exact fits_quoted_cons summary (List.forall_mem_map.2 tagsClose)
  | parameter _ _ _ description required default example? _ _ _ typed writable order =>
      refine fits_append_of_perm order (single (.typed _ _) typed)
        (List.forall_mem_append.2 ⟨?_, ?_⟩)
      · exact List.forall_mem_append.2
          ⟨fits_switchPieces closedWord_required required, fits_valuesPieces writable⟩
      · exact fits_quoted_cons description (flags _ _ default example? (by decide) (by decide))
  | field _ _ description required example? _ _ _ typed writable order =>
      refine fits_append_of_perm order (single (.typed _ _) typed)
        (List.forall_mem_append.2 ⟨?_, ?_⟩)
      · exact List.forall_mem_append.2
          ⟨fits_switchPieces closedWord_required required, fits_valuesPieces writable⟩
      · exact fits_quoted_cons description (fits_flagPieces (by decide) example?)
  | schema _ _ description format example? _ _ front _ named writable order =>
      have frontFits : ∀ piece ∈ front, piece.Fits := by
        rcases named with ⟨rfl, name, type⟩ | ⟨rfl, typed⟩
        · exact List.forall_mem_cons.2 ⟨closedWord_of_lexesAlone name, single (.bare _) type⟩
        · exact single (.typed _ _) typed
      refine fits_append_of_perm order frontFits
        (List.forall_mem_append.2 ⟨fits_valuesPieces writable, ?_⟩)
      exact fits_quoted_cons description (flags _ _ format example? (by decide) (by decide))
  | body _ description required _ closed _ order =>
      refine fits_append_of_perm order (single (.bare _) closed)
        (List.forall_mem_append.2 ⟨?_, ?_⟩)
      · exact fits_switchPieces closedWord_required required
      · exact fits_quoted_cons description (List.forall_mem_nil _)
  | response _ _ _ description _ statusCounts schemaCloses _ order =>
      have status := fits_optionalBare fun word given =>
        closedWord_of_lexesAlone (lexesAlone_of_isStatus (statusCounts word given))
      refine fits_append_of_perm order status (List.forall_mem_append.2 ⟨?_, ?_⟩)
      · exact fits_optionalBare schemaCloses
      · exact fits_quoted_cons description (List.forall_mem_nil _)
  | secure _ _ closed => exact List.forall_mem_map.2 closed
  | model description => exact fits_quoted_cons description (List.forall_mem_nil _)

/-! ## The roles of the optional tokens -/

/-- The token of a switch that is on. -/
def switchToken (name : String) (on : Bool) : Option Token := if on then some (.word name) else none

/-- The token of a list of values. -/
def valuesToken (values : Option (List String)) (gaps : List (List Char)) : Option Token :=
  values.map fun texts => .paren (String.ofList (writeValues texts gaps))

theorem isSome_switchToken (name : String) (on : Bool) : (switchToken name on).isSome = on := by
  cases on <;> rfl

theorem map_token_switchPieces {name : String} (word : classify name.toList = .word name)
    (on : Bool) : (switchPieces name on).map Piece.token = (switchToken name on).toList := by
  cases on <;> simp [switchPieces, switchToken, Piece.token, word]

theorem map_token_valuesPieces (values : Option (List String)) (gaps : List (List Char)) :
    (valuesPieces values gaps).map Piece.token = (valuesToken values gaps).toList := by
  cases values <;> rfl

theorem classify_required : classify "required".toList = .word "required" := by decide

theorem classify_deprecated : classify "deprecated".toList = .word "deprecated" := by decide

/-- The optional pieces by their roles when they stand in any order. The `rest` are tags or
flags. -/
theorem roles_of_perm {name : String} (word : classify name.toList = .word name) {on : Bool}
    {values : Option (List String)} {gaps : List (List Char)} {description : String}
    {rest extras : List Piece}
    (order : extras.Perm
      (switchPieces name on ++ valuesPieces values gaps ++ .quoted description :: rest))
    (fits : ∀ piece ∈ extras, piece.Fits) (unplaced : (LineTokens.ofPieces rest).positional = []) :
    (LineTokens.ofPieces extras).positional.Perm
        ((switchToken name on).toList ++
          ((valuesToken values gaps).toList ++ [.quoted description])) ∧
      (LineTokens.ofPieces extras).flags.Perm (LineTokens.ofPieces rest).flags := by
  have front : ∀ piece ∈ switchPieces name on ++ valuesPieces values gaps ++
      [Piece.quoted description], piece.isPositional = true := by
    cases on <;> cases values <;> simp [switchPieces, valuesPieces, Piece.isPositional]
  have tokens : (switchPieces name on ++ valuesPieces values gaps ++
      [Piece.quoted description]).map Piece.token = (switchToken name on).toList ++
      ((valuesToken values gaps).toList ++ [.quoted description]) := by
    simp [map_token_switchPieces word, map_token_valuesPieces, Piece.token]
  rw [List.append_cons] at order
  have frontFits : ∀ piece ∈ switchPieces name on ++ valuesPieces values gaps ++
      [Piece.quoted description], piece.Fits := fun piece member =>
    fits piece (order.mem_iff.2 (List.mem_append_left rest member))
  have positional := LineTokens.positional_of_perm order
  have flags := LineTokens.flags_of_perm order
  rw [LineTokens.ofPieces_append frontFits front] at positional flags
  rw [unplaced, List.append_nil, tokens] at positional
  exact ⟨positional, flags⟩

theorem ofPieces_flags (first second : String) (left right : Option String) :
    LineTokens.ofPieces (flagPieces first left ++ flagPieces second right) =
      ⟨[], [], (quotedFlag first left).toList ++ (quotedFlag second right).toList⟩ := by
  cases left <;> cases right <;> rfl

theorem ofPieces_tags (tags : List String) :
    LineTokens.ofPieces (tags.map Piece.tag) = ⟨[], tags, []⟩ := by
  induction tags with
  | nil => rfl
  | cons tag tags induction =>
      rw [LineTokens.ofPieces] at induction
      rw [LineTokens.ofPieces, List.map_cons, List.map_cons, Piece.token, LineTokens.ofTokens,
        induction]

theorem takeSwitch_extras {name : String} {on : Bool} {front extras others : List Token}
    (order : extras.Perm ((switchToken name on).toList ++ others))
    (frontFree : ∀ token ∈ front, isSwitch name token = false)
    (free : ∀ token ∈ others, isSwitch name token = false) :
    ∃ rest, takeSwitch name (front ++ extras) = (on, front ++ rest) ∧ rest.Perm others := by
  have hit : ∀ token ∈ switchToken name on, isSwitch name token = true := by
    cases on <;> simp [switchToken, isSwitch]
  obtain ⟨rest, taken, left⟩ := takeSwitch_of_perm order hit frontFree free
  rw [isSome_switchToken] at taken
  exact ⟨rest, taken, left⟩

theorem takeValues_extras {values : Option (List String)} {gaps : List (List Char)}
    {description : String} {front extras : List Token}
    (order : extras.Perm ((valuesToken values gaps).toList ++ [.quoted description]))
    (writable : WritableValues values gaps)
    (frontFree : ∀ token ∈ front, token.isParen = false) :
    takeValues (front ++ extras) = (textValues values, front ++ [.quoted description]) := by
  have hit : ∀ token ∈ valuesToken values gaps, token.isParen = true := by
    cases values <;> simp [valuesToken, Token.isParen]
  obtain ⟨rest, taken, left⟩ := takeValues_of_perm order hit frontFree (by simp [Token.isParen])
  have read : (valuesToken values gaps).map (fun token => readListedValues token.text) =
      textValues values := by
    cases values with
    | none => rfl
    | some texts =>
        have same := readListedValues_writeValues (writable.1 texts rfl) writable.2
        simpa [valuesToken, textValues, Token.text] using same
  rw [taken, left.eq_singleton, read]

theorem findFlag_extras {flags : List Flag} {first second : String} {left right : Option String}
    (order : flags.Perm ((quotedFlag first left).toList ++ (quotedFlag second right).toList))
    (forward : eqIgnoringCase first second = false)
    (backward : eqIgnoringCase second first = false) :
    findFlag flags first = quotedFlag first left ∧
      findFlag flags second = quotedFlag second right := by
  constructor
  · refine findFlag_of_perm order fun flag member => ?_
    rw [key_of_mem_quotedFlag (Option.mem_toList.1 member), backward]
  · refine findFlag_of_perm (order.trans List.perm_append_comm) fun flag member => ?_
    rw [key_of_mem_quotedFlag (Option.mem_toList.1 member), forward]

/-! ## Reading the tokens -/

namespace LineTokens

variable {extras : List Token} {tags : List String} {flags : List Flag}

@[simp] theorem descriptionText_quoted (text : String) :
    descriptionText [.quoted text] = text :=
  rfl

section Typed

variable {name type description : String} {required : Bool} {values : Option (List String)}
  {gaps : List (List Char)}

/-- A line that starts with a typed name gives up its switch and its values, wherever they
stand. -/
theorem takeExtras (name type : String)
    (order : extras.Perm ((switchToken "required" required).toList ++
      ((valuesToken values gaps).toList ++ [.quoted description])))
    (writable : WritableValues values gaps) :
    ∃ rest,
      takeSwitch "required" (.typed name type :: extras) = (required, .typed name type :: rest) ∧
      takeValues (.typed name type :: rest) =
        (textValues values, [.typed name type, .quoted description]) := by
  have othersFree : ∀ token ∈ (valuesToken values gaps).toList ++ [.quoted description],
      isSwitch "required" token = false := by
    cases values <;> simp [valuesToken, isSwitch]
  have frontFree : ∀ token ∈ [Token.typed name type],
      isSwitch "required" token = false ∧ token.isParen = false := by
    simp [isSwitch, Token.isParen]
  obtain ⟨rest, switched, left⟩ := takeSwitch_extras order
    (fun token member => (frontFree token member).1) othersFree
  have listed := takeValues_extras left writable fun token member => (frontFree token member).2
  exact ⟨rest, switched, listed⟩

theorem parameter_of_extras {default example? : Option String}
    (order : extras.Perm ((switchToken "required" required).toList ++
      ((valuesToken values gaps).toList ++ [.quoted description])))
    (writable : WritableValues values gaps)
    (flagOrder : flags.Perm
      ((quotedFlag "default" default).toList ++ (quotedFlag "example" example?).toList))
    (verb : String) (location : Location) :
    parameter ⟨.typed name type :: extras, tags, flags⟩ verb location = .ok {
      name, location, type, description, required
      default := default.map .string
      example? := example?.map .string
      values := textValues values } := by
  obtain ⟨rest, switched, listed⟩ := takeExtras name type order writable
  obtain ⟨first, second⟩ := findFlag_extras flagOrder (by decide) (by decide)
  simp [parameter, switched, listed, nameAndType, flagValue_of_findFlag first,
    flagValue_of_findFlag second, bind, Except.bind, pure, Except.pure]

theorem field_of_extras {default example? : Option String}
    (order : extras.Perm ((switchToken "required" required).toList ++
      ((valuesToken values gaps).toList ++ [.quoted description])))
    (writable : WritableValues values gaps)
    (flagOrder : flags.Perm
      ((quotedFlag "default" default).toList ++ (quotedFlag "example" example?).toList))
    (verb : String) :
    field ⟨.typed name type :: extras, tags, flags⟩ verb = .ok {
      name, description, required
      type := some type
      example? := example?.map .string
      values := textValues values } := by
  obtain ⟨rest, switched, listed⟩ := takeExtras name type order writable
  obtain ⟨-, second⟩ := findFlag_extras flagOrder (by decide) (by decide)
  simp [field, switched, listed, nameAndType, flagValue_of_findFlag second, bind,
    Except.bind, pure, Except.pure]

theorem schema_of_extras {front : List Piece} {format example? : Option String}
    (named : front = [.bare name, .bare type] ∧ LexesAlone name.toList (.word name) ∧
        ClosedWord type ∨
      front = [.typed name type] ∧
        LexesAlone (name.toList ++ ':' :: type.toList) (.typed name type))
    (order : extras.Perm ((valuesToken values gaps).toList ++ [.quoted description]))
    (writable : WritableValues values gaps)
    (flagOrder : flags.Perm
      ((quotedFlag "format" format).toList ++ (quotedFlag "example" example?).toList))
    (verb : String) :
    schema ⟨front.map Piece.token ++ extras, tags, flags⟩ verb = .ok {
      name, type, description, format
      example? := example?.map .string
      values := textValues values } := by
  obtain ⟨first, second⟩ := findFlag_extras flagOrder (by decide) (by decide)
  rcases named with ⟨rfl, alone, closed⟩ | ⟨rfl, -⟩
  · have classified := (alone.wordText rfl rfl).classified
    have free : ∀ token ∈ [Piece.bare name, .bare type].map Piece.token, token.isParen = false := by
      simpa [Piece.token, classified, Token.isParen] using Token.isParen_of_isBare closed.isBare
    have listed := takeValues_extras order writable free
    simp only [schema, listed]
    simp [nameAndType, requireText, Piece.token, classified, flagValue_of_findFlag second, first,
      map_value_quotedFlag, bind, Except.bind, pure, Except.pure]
  · have free : ∀ token ∈ [Piece.typed name type].map Piece.token, token.isParen = false := by
      simp [Piece.token, Token.isParen]
    have listed := takeValues_extras order writable free
    simp only [schema, listed]
    simp [nameAndType, Piece.token, flagValue_of_findFlag second, first, map_value_quotedFlag, bind,
      Except.bind, pure, Except.pure]

end Typed

theorem isSwitch_classify {word name : String} (plain : eqIgnoringCase word name = false) :
    isSwitch name (classify word.toList) = false := by
  have text := text_classify_toList word
  cases token : classify word.toList <;> simp_all [isSwitch]

theorem route_of_extras {path summary : String} {operationId : Option String} {deprecated : Bool}
    (pathCloses : ClosedWord path) (pathPlain : eqIgnoringCase path "deprecated" = false)
    (idCloses : ∀ word ∈ operationId, ClosedWord word)
    (idPlain : ∀ word ∈ operationId, eqIgnoringCase word "deprecated" = false)
    (order : extras.Perm ((switchToken "deprecated" deprecated).toList ++ [.quoted summary]))
    (verb : String) (method : Method) :
    route ⟨(Piece.bare path :: operationPieces operationId).map Piece.token ++ extras, tags,
      flags⟩ verb method = .ok {
        method, path, summary, tags, deprecated
        operationId := operationId.getD "" } := by
  have frontFree : ∀ token ∈ (Piece.bare path :: operationPieces operationId).map Piece.token,
      isSwitch "deprecated" token = false := by
    refine List.forall_mem_cons.2 ⟨isSwitch_classify pathPlain, ?_⟩
    cases operationId with
    | none => exact List.forall_mem_nil _
    | some word =>
        have idFree := isSwitch_classify (idPlain word rfl)
        simpa [operationPieces, Piece.token, isSwitch] using idFree
  obtain ⟨rest, switched, left⟩ := takeSwitch_extras order frontFree (by simp [isSwitch])
  obtain rfl := left.eq_singleton
  have pathBare := pathCloses.isBare
  simp only [route, switched]
  cases operationId with
  | none =>
      simp [operationPieces, requireBare, Piece.token, pathBare, bind, Except.bind, pure,
        Except.pure]
  | some word =>
      have idBare := (idCloses word rfl).isBare
      simp [operationPieces, requireBare, Piece.token, pathBare, idBare, bind, Except.bind, pure,
        Except.pure]

theorem body_of_extras {schema description : String} {required : Bool}
    (closed : ClosedWord schema) (plain : eqIgnoringCase schema "required" = false)
    (order : extras.Perm ((switchToken "required" required).toList ++ [.quoted description]))
    (verb : String) :
    body ⟨classify schema.toList :: extras, tags, flags⟩ verb =
      .ok { schema, description, required } := by
  have frontFree : ∀ token ∈ [classify schema.toList], isSwitch "required" token = false := by
    simpa using isSwitch_classify plain
  obtain ⟨rest, switched, left⟩ := takeSwitch_extras order frontFree (by simp [isSwitch])
  obtain rfl := left.eq_singleton
  rw [List.singleton_append] at switched
  have bare := Token.isQuoted_of_isBare closed.isBare
  simp [body, switched, bare]

theorem schemaWord_of_isBare {token : Token} (bare : token.isBare = true) :
    schemaWord token = token.text := by
  cases token with
  | word text => rfl
  | typed name type => rfl
  | _ => cases bare

theorem takeStatus_cons {token : Token} (plain : ∀ text, token = .word text → isStatus text = false)
    (tokens : List Token) : takeStatus (token :: tokens) = (none, token :: tokens) := by
  cases token with
  | word text => simp [takeStatus, plain text rfl]
  | _ => rfl

/-- A status at the front of a response is taken; another word there is not. -/
theorem takeStatus_of_perm {status schema : Option String} {description : String}
    (statusCounts : ∀ word ∈ status, isStatus word = true)
    (schemaPlain : status = none → ∀ word ∈ schema, isStatus word = false)
    (order : extras.Perm
      (((schema.map Piece.bare).toList ++ [Piece.quoted description]).map Piece.token)) :
    takeStatus ((status.map Piece.bare).toList.map Piece.token ++ extras) = (status, extras) := by
  cases status with
  | some word =>
      have alone := lexesAlone_of_isStatus (statusCounts word rfl)
      have classified := (alone.wordText rfl rfl).classified
      simp [takeStatus, Piece.token, classified, statusCounts word rfl]
  | none =>
      cases extras with
      | nil => rfl
      | cons token extras =>
          refine takeStatus_cons ?_ extras
          rintro text rfl
          have member := order.mem_iff.1 List.mem_cons_self
          obtain ⟨word, given, found⟩ : ∃ word ∈ schema, classify word.toList = .word text := by
            simpa [Piece.token] using member
          have same := text_classify_toList word
          rw [found, Token.text_word] at same
          rw [same]
          exact schemaPlain rfl word given

theorem response_of_extras {status schema : Option String} {description : String}
    (statusCounts : ∀ word ∈ status, isStatus word = true)
    (schemaCloses : ∀ word ∈ schema, ClosedWord word)
    (schemaPlain : status = none → ∀ word ∈ schema, isStatus word = false)
    (order : extras.Perm
      (((schema.map Piece.bare).toList ++ [Piece.quoted description]).map Piece.token))
    (outcome : Outcome) :
    response ⟨(status.map Piece.bare).toList.map Piece.token ++ extras, tags, flags⟩ outcome = {
      outcome, description
      status := status.getD (defaultStatus outcome)
      schema := schema.getD "" } := by
  have stated := takeStatus_of_perm statusCounts schemaPlain order
  have quotedFirst : extras.Perm ((some (Token.quoted description)).toList ++
      (schema.map fun word => classify word.toList).toList) := by
    refine order.trans (List.Perm.trans (.of_eq ?_) List.perm_append_comm)
    cases schema <;> rfl
  have schemaFree : ∀ token ∈ (schema.map fun word => classify word.toList).toList,
      token.isQuoted = false := by
    cases schema with
    | none => exact List.forall_mem_nil _
    | some word => simpa using Token.isQuoted_of_isBare (schemaCloses word rfl).isBare
  obtain ⟨rest, taken, left⟩ := takeQuoted_of_perm quotedFirst (by simp [Token.isQuoted])
    (List.forall_mem_nil _) schemaFree
  rw [List.nil_append, eq_toList_of_perm left] at taken
  simp only [response, stated, taken]
  cases schema with
  | none => rfl
  | some word =>
      have spelled := schemaWord_of_isBare (schemaCloses word rfl).isBare
      simp [spelled]

end LineTokens

/-- The tokens of a line about one operation or model are read as its annotation. -/
theorem LocalLine.read_eq (written : LocalLine meaning word pieces) :
    ∃ verb, Verb.ofWord? word = some verb ∧
      (LineTokens.ofPieces pieces).read word verb = .ok meaning := by
  have fits := written.fits
  cases written with
  | route method path operationId summary tags deprecated extras pathCloses pathPlain idCloses
      idPlain tagsClose order tagOrder =>
      have known : Verb.ofWord? (asciiLower method.name) = some (.route method) := by
        cases method <;> rfl
      obtain ⟨frontFits, extrasFit⟩ := List.forall_mem_append.1 fits
      have front : ∀ piece ∈ Piece.bare path :: operationPieces operationId,
          piece.isPositional = true := by
        cases operationId <;> simp [operationPieces, Piece.isPositional]
      have listed : extras.Perm (switchPieces "deprecated" deprecated ++ valuesPieces none [] ++
          .quoted summary :: tags.map .tag) := by
        simpa [valuesPieces] using order
      obtain ⟨positional, -⟩ :=
        roles_of_perm classify_deprecated listed extrasFit (by rw [ofPieces_tags])
      have named := (LineTokens.tags_ofPieces extrasFit).trans tagOrder
      refine ⟨.route method, known, ?_⟩
      rw [LineTokens.ofPieces_append frontFits front, LineTokens.read,
        LineTokens.route_of_extras pathCloses pathPlain idCloses idPlain positional, named]
      rfl
  | parameter location name type description required default example? values gaps extras typed
      writable order =>
      have known : Verb.ofWord? location.word = some (.parameter location) := by
        cases location <;> rfl
      obtain ⟨frontFits, extrasFit⟩ := List.forall_mem_cons.1 fits
      obtain ⟨positional, flags⟩ :=
        roles_of_perm classify_required order extrasFit (by rw [ofPieces_flags])
      rw [ofPieces_flags] at flags
      refine ⟨.parameter location, known, ?_⟩
      rw [LineTokens.ofPieces_cons frontFits rfl, Piece.token, LineTokens.read,
        LineTokens.parameter_of_extras positional writable flags]
      rfl
  | field name type description required example? values gaps extras typed writable order =>
      -- The pieces are those of a parameter whose default is left out.
      have listed : extras.Perm (switchPieces "required" required ++ valuesPieces values gaps ++
        .quoted description :: (flagPieces "default" none ++ flagPieces "example" example?)) :=
        order
      obtain ⟨frontFits, extrasFit⟩ := List.forall_mem_cons.1 fits
      obtain ⟨positional, flags⟩ :=
        roles_of_perm classify_required listed extrasFit (by rw [ofPieces_flags])
      rw [ofPieces_flags] at flags
      refine ⟨.field, rfl, ?_⟩
      rw [LineTokens.ofPieces_cons frontFits rfl, Piece.token, LineTokens.read,
        LineTokens.field_of_extras positional writable flags]
      rfl
  | schema name type description format example? values gaps front extras named writable order =>
      have listed : extras.Perm (switchPieces "required" false ++ valuesPieces values gaps ++
        .quoted description :: (flagPieces "format" format ++ flagPieces "example" example?)) :=
        order
      obtain ⟨frontFits, extrasFit⟩ := List.forall_mem_append.1 fits
      obtain ⟨positional, flags⟩ :=
        roles_of_perm classify_required listed extrasFit (by rw [ofPieces_flags])
      rw [ofPieces_flags] at flags
      have placed : ∀ piece ∈ front, piece.isPositional = true := by
        rcases named with ⟨rfl, -, -⟩ | ⟨rfl, -⟩ <;> simp [Piece.isPositional]
      refine ⟨.schema, rfl, ?_⟩
      rw [LineTokens.ofPieces_append frontFits placed, LineTokens.read,
        LineTokens.schema_of_extras named positional writable flags]
      rfl
  | body schema description required extras closed plain order =>
      have listed : extras.Perm (switchPieces "required" required ++ valuesPieces none [] ++
          [.quoted description]) := by
        simpa [valuesPieces] using order
      obtain ⟨frontFits, extrasFit⟩ := List.forall_mem_cons.1 fits
      obtain ⟨positional, -⟩ := roles_of_perm classify_required listed extrasFit rfl
      refine ⟨.body, rfl, ?_⟩
      rw [LineTokens.ofPieces_cons frontFits rfl, Piece.token, LineTokens.read,
        LineTokens.body_of_extras closed plain positional]
      rfl
  | response outcome status schema description extras statusCounts schemaCloses schemaPlain
      order =>
      have known : Verb.ofWord? outcome.verb = some (.response outcome) := by cases outcome <;> rfl
      obtain ⟨frontFits, extrasFit⟩ := List.forall_mem_append.1 fits
      have front : ∀ piece ∈ (status.map Piece.bare).toList, piece.isPositional = true := by
        cases status <;> simp [Piece.isPositional]
      have listed : ∀ piece ∈ (schema.map Piece.bare).toList ++ [Piece.quoted description],
          piece.isPositional = true := by
        cases schema <;> simp [Piece.isPositional]
      have placed : ∀ piece ∈ extras, piece.isPositional = true := fun piece member =>
        listed piece (order.mem_iff.1 member)
      refine ⟨.response outcome, known, ?_⟩
      rw [LineTokens.ofPieces_append frontFits front, LineTokens.ofPieces_eq extrasFit placed,
        LineTokens.read, LineTokens.response_of_extras statusCounts schemaCloses schemaPlain
          (order.map Piece.token)]
  | secure schemes nonempty closed =>
      have placed : ∀ piece ∈ schemes.map Piece.bare, piece.isPositional = true := by
        simp [Piece.isPositional]
      refine ⟨.secure, rfl, ?_⟩
      rw [LineTokens.ofPieces_eq fits placed]
      cases schemes with
      | nil => exact absurd rfl nonempty
      | cons scheme schemes =>
          simp [LineTokens.read, LineTokens.secure, Piece.token, Function.comp_def, bind,
            Except.bind, pure, Except.pure]
  | model description =>
      refine ⟨.model, rfl, ?_⟩
      simp [LineTokens.read, LineTokens.ofPieces, LineTokens.ofTokens, Piece.token]

/-- Every line about one operation or model is read as the annotation it is written for. -/
theorem parseLine_of_localLine {verb : String} (written : LocalLine meaning word pieces)
    (spelled : asciiLower verb = word) :
    parseLine (writeLine verb pieces) = .ok (some meaning) := by
  obtain ⟨kind, known, read⟩ := written.read_eq
  rw [parseLine_writeLine spelled known written.fits, read]
  rfl

theorem parseLine_route_and_query_of_pets :
    parseLine "!Get /pets -> list #pets \"All \\\"pets\\\"\" deprecated #shop".toList =
        .ok (some (.route {
          method := .get
          path := "/pets"
          operationId := "list"
          summary := "All \"pets\""
          tags := ["pets", "shop"]
          deprecated := true })) ∧
      parseLine
          "!query s:Vec<A, B> default=\"a\" (\"a\"|\"b\" , \"c\") required \"By s\"".toList =
        .ok (some (.parameter {
          name := "s"
          location := .query
          type := "Vec<A, B>"
          description := "By s"
          required := true
          default := some (.string "a")
          example? := none
          values := some [.string "a", .string "b", .string "c"] })) := by
  have routeLine : "!Get /pets -> list #pets \"All \\\"pets\\\"\" deprecated #shop".toList =
      writeLine "Get" [.bare "/pets", .arrow, .bare "list", .tag "pets", .quoted "All \"pets\"",
        .bare "deprecated", .tag "shop"] := by
    decide
  have queryLine :
      "!query s:Vec<A, B> default=\"a\" (\"a\"|\"b\" , \"c\") required \"By s\"".toList =
      writeLine "query" [.typed "s" "Vec<A, B>", .flag "default" "a",
        .values ["a", "b", "c"] [['|'], [' ', ',', ' ']], .bare "required", .quoted "By s"] := by
    decide
  have path : ClosedWord "/pets" :=
    closedWord_of_lexesAlone ⟨by with_unfolding_all rfl, by decide⟩
  have operation : ClosedWord "list" :=
    closedWord_of_lexesAlone ⟨by with_unfolding_all rfl, by decide⟩
  have pets : LexesAlone "#pets".toList (.tag "pets") := ⟨by with_unfolding_all rfl, by decide⟩
  have shop : LexesAlone "#shop".toList (.tag "shop") := ⟨by with_unfolding_all rfl, by decide⟩
  have typed : LexesAlone "s:Vec<A, B>".toList (.typed "s" "Vec<A, B>") :=
    ⟨by with_unfolding_all rfl, by decide⟩
  have bar : IsGap ['|'] :=
    ⟨[], '|', [], rfl, .inl rfl, List.forall_mem_nil _, List.forall_mem_nil _⟩
  have blank : ∀ c ∈ [' '], isBlank c = true := List.forall_mem_singleton.2 rfl
  have comma : IsGap [' ', ',', ' '] := ⟨[' '], ',', [' '], rfl, .inr rfl, blank, blank⟩
  have writable : WritableValues (some ["a", "b", "c"]) [['|'], [' ', ',', ' ']] := by
    simp [WritableValues, IsListable, bar, comma]
  constructor
  · rw [routeLine]
    exact parseLine_of_localLine
      (.route .get "/pets" (some "list") "All \"pets\"" ["pets", "shop"] true
        [.tag "pets", .quoted "All \"pets\"", .bare "deprecated", .tag "shop"]
        path (by decide) (by simpa using operation) (by simp; decide) (by simpa using ⟨pets, shop⟩)
        (by decide) rfl)
      (by decide)
  · rw [queryLine]
    exact parseLine_of_localLine
      (.parameter .query "s" "Vec<A, B>" "By s" true (some "a") none (some ["a", "b", "c"])
        [['|'], [' ', ',', ' ']]
        [.flag "default" "a", .values ["a", "b", "c"] [['|'], [' ', ',', ' ']],
          .bare "required", .quoted "By s"]
        typed writable (by decide))
      (by decide)

end DocApi
