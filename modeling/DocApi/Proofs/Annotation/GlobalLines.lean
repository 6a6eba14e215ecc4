import DocApi.Proofs.Annotation.Pieces
import DocApi.Proofs.Annotation.Roles

/-!
# Lines about the interface as a whole

How the annotations that describe the whole interface are written. Every line written like this is
read as the annotation it was written for, whatever the quoted texts hold and in whatever case the
verb is spelled.
-/

namespace DocApi

/-- Whether a version starts with a mark that is dropped from it: `v` or `V` before a digit. -/
def IsMarkedVersion (version : String) : Prop :=
  ∃ mark digit rest, version.toList = mark :: digit :: rest ∧ (mark = 'v' ∨ mark = 'V') ∧
    digit.isDigit = true

/-- A line about the interface as a whole: the annotation, its verb in lower case, and the pieces
that the annotation is written with. -/
inductive GlobalLine : Annotation → String → List Piece → Prop
  | api (version : String) : GlobalLine (.api version) "api" [.quoted version]
  | terms (url : String) : GlobalLine (.terms url) "tos" [.quoted url]
  | license (name url : String) :
      GlobalLine (.license { name, url }) "license" [.quoted name, .quoted url]
  | server (url description : String) :
      GlobalLine (.server { url, description }) "server" [.quoted url, .quoted description]
  | tag (name description : String) :
      GlobalLine (.tag { name, description }) "tag" [.quoted name, .quoted description]
  | externalDocs (url description : String) :
      GlobalLine (.docs { url, description }) "externaldocs" [.quoted url, .quoted description]
  | docs (url description : String) :
      GlobalLine (.docs { url, description }) "docs" [.quoted url, .quoted description]
  | link (label url : String) :
      GlobalLine (.link { label, url }) "link" [.quoted label, .quoted url]
  | scope (scheme name description : String) :
      GlobalLine (.scope { scheme, name, description }) "scope"
        [.quoted scheme, .quoted name, .quoted description]
  /-- The version may be left out; it is then empty. -/
  | info (title : String) (version : Option String) (description : String)
      (closed : ∀ word ∈ version, ClosedWord word)
      (unmarked : ∀ word ∈ version, ¬ IsMarkedVersion word) :
      GlobalLine (.info { title, version := version.getD "", description }) "info"
        (.quoted title :: (version.map .bare).toList ++ [.quoted description])
  /-- The URL may be left out; it is then empty. -/
  | contact (name email : String) (url : Option String)
      (free : '>' ∉ email.toList) (trimmed : trim email.toList = email.toList)
      (alone : ∀ word ∈ url, LexesAlone word.toList (.word word))
      (web : ∀ word ∈ url, "http://".toList <+: word.toList ∨ "https://".toList <+: word.toList)
      (informative : ¬ (name = "" ∧ email = "" ∧ url.getD "" = "")) :
      GlobalLine (.contact { name, email, url := url.getD "" }) "contact"
        (.quoted name :: .angle email :: (url.map .bare).toList)
  /-- The format of bearer tokens may be left out. -/
  | security (name kind : String) (arguments : List String) (description : String)
      (bearerFormat : Option String) (closed : ∀ argument ∈ arguments, ClosedWord argument) :
      GlobalLine (.security { name, kind, arguments, description, bearerFormat }) "security"
        (.quoted name :: .quoted kind :: arguments.map .bare ++
          .quoted description :: flagPieces "bearerFormat" bearerFormat)

variable {meaning : Annotation} {word : String} {pieces : List Piece}

theorem GlobalLine.fits (written : GlobalLine meaning word pieces) :
    ∀ piece ∈ pieces, piece.Fits := by
  cases written with
  | info title version description closed unmarked =>
      cases version with
      | none => simp [Piece.Fits]
      | some version => simpa [Piece.Fits] using closed version rfl
  | contact name email url free trimmed alone web informative =>
      cases url with
      | none => simpa [Piece.Fits] using ⟨free, trimmed⟩
      | some url =>
          have closed := closedWord_of_lexesAlone (alone url rfl)
          simpa [Piece.Fits] using ⟨⟨free, trimmed⟩, closed⟩
  | security name kind arguments description bearerFormat closed =>
      refine List.forall_mem_append.2 ⟨?_, List.forall_mem_cons.2 ⟨trivial, ?_⟩⟩
      · simpa [Piece.Fits] using closed
      · exact fits_flagPieces (by decide) bearerFormat
  | _ => simp [Piece.Fits]

/-! ## Reading the tokens -/

theorem dropVersionMark_of_unmarked {version : String} (unmarked : ¬ IsMarkedVersion version) :
    dropVersionMark version = version := by
  unfold dropVersionMark
  split
  · rename_i mark digit rest spelled
    split
    · rename_i marked
      rw [Bool.and_eq_true, Bool.or_eq_true, beq_iff_eq, beq_iff_eq] at marked
      exact absurd ⟨mark, digit, rest, spelled, marked.1, marked.2⟩ unmarked
    · rfl
  · rfl

theorem isWebUrl_of_start {url : String}
    (web : "http://".toList <+: url.toList ∨ "https://".toList <+: url.toList) :
    isWebUrl url = true := by
  have starts : ∀ {start text : List Char}, start <+: text → startsWith start text = true := by
    rintro start text ⟨rest, rfl⟩
    rw [startsWith, afterStart?_eq_some_iff.2 rfl]
    rfl
  rw [isWebUrl, Bool.or_eq_true]
  exact web.imp starts starts

namespace LineTokens

theorem textAndRest_quoted (text description verb what : String) :
    (ofPieces [.quoted text, .quoted description]).textAndRest verb what =
      .ok (text, description) := by
  simp [textAndRest, ofPieces, ofTokens, Piece.token, requireText, bind, Except.bind, pure,
    Except.pure]

variable {tags : List String} {flags : List Flag}

theorem info_of_version {title description : String} {version : Option String}
    (closed : ∀ word ∈ version, ClosedWord word)
    (unmarked : ∀ word ∈ version, ¬ IsMarkedVersion word) (verb : String) :
    info ⟨(Piece.quoted title :: (version.map Piece.bare).toList ++
      [Piece.quoted description]).map Piece.token, tags, flags⟩ verb =
      .ok { title, version := version.getD "", description } := by
  cases version with
  | none =>
      simp [info, Piece.token, requireText, Token.isBare, bind, Except.bind, pure, Except.pure]
  | some word =>
      have bare := (closed word rfl).isBare
      have kept := dropVersionMark_of_unmarked (unmarked word rfl)
      simp [info, Piece.token, requireText, bare, kept, bind, Except.bind, pure, Except.pure]

theorem contact_of_web {name email : String} {url : Option String}
    (alone : ∀ word ∈ url, LexesAlone word.toList (.word word))
    (web : ∀ word ∈ url, isWebUrl word = true)
    (informative : ¬ (name = "" ∧ email = "" ∧ url.getD "" = "")) (verb : String) :
    contact ⟨(Piece.quoted name :: Piece.angle email :: (url.map Piece.bare).toList).map
      Piece.token, tags, flags⟩ verb = .ok { name, email, url := url.getD "" } := by
  have gathered : ((Piece.quoted name :: Piece.angle email :: (url.map Piece.bare).toList).map
      Piece.token).foldl addContact ⟨"", "", ""⟩ = ⟨name, email, url.getD ""⟩ := by
    cases url with
    | none => simp [Piece.token, addContact]
    | some word =>
        have text := (alone word rfl).wordText rfl rfl
        simp [Piece.token, text.classified, addContact, web word rfl]
  simp only [contact, gathered]
  rw [if_neg]
  simpa using informative

theorem security_of_arguments {name kind description : String} {arguments : List String}
    {bearerFormat : Option String} (closed : ∀ argument ∈ arguments, ClosedWord argument)
    (verb : String) :
    security ⟨(Piece.quoted name :: Piece.quoted kind :: arguments.map Piece.bare ++
      [Piece.quoted description]).map Piece.token, tags,
      (quotedFlag "bearerFormat" bearerFormat).toList⟩ verb =
      .ok { name, kind, arguments, description, bearerFormat } := by
  have split : (Piece.quoted name :: Piece.quoted kind :: arguments.map Piece.bare ++
      [Piece.quoted description]).map Piece.token =
      .quoted name :: .quoted kind ::
        ((arguments.map Piece.bare).map Piece.token ++ [.quoted description]) := by
    simp [Piece.token]
  have free : ∀ token ∈ (arguments.map Piece.bare).map Piece.token, token.isQuoted = false := by
    simpa [Piece.token] using fun word member =>
      Token.isQuoted_of_isBare (closed word member).isBare
  have words : ((arguments.map Piece.bare).map Piece.token).map Token.text = arguments := by
    simp [Piece.token, Function.comp_def]
  have order : [Token.quoted description].Perm ((some (.quoted description)).toList ++ []) := by
    simp
  have format : findFlag (quotedFlag "bearerFormat" bearerFormat).toList "bearerFormat" =
      quotedFlag "bearerFormat" bearerFormat :=
    findFlag_of_perm (.of_eq (List.append_nil _).symm) nofun
  rw [split]
  generalize (arguments.map Piece.bare).map Piece.token = tokens at free words
  obtain ⟨rest, taken, nothing⟩ := takeQuoted_of_perm order (by simp [Token.isQuoted]) free nofun
  obtain rfl := nothing.eq_nil
  simp [security, requireText, taken, words, format, map_value_quotedFlag, bind, Except.bind, pure,
    Except.pure]

end LineTokens

/-- The tokens of a line about the interface as a whole are read as its annotation. -/
theorem GlobalLine.read_eq (written : GlobalLine meaning word pieces) :
    ∃ verb, Verb.ofWord? word = some verb ∧
      (LineTokens.ofPieces pieces).read word verb = .ok meaning := by
  have fits := written.fits
  cases written with
  | api version => exact ⟨.api, rfl, rfl⟩
  | terms url => exact ⟨.terms, rfl, rfl⟩
  | license name url => exact ⟨.license, rfl, rfl⟩
  | server url description =>
      exact ⟨.server, rfl, by rw [LineTokens.read, LineTokens.textAndRest_quoted]; rfl⟩
  | tag name description =>
      exact ⟨.tag, rfl, by rw [LineTokens.read, LineTokens.textAndRest_quoted]; rfl⟩
  | externalDocs url description =>
      exact ⟨.docs, rfl, by rw [LineTokens.read, LineTokens.textAndRest_quoted]; rfl⟩
  | docs url description =>
      exact ⟨.docs, rfl, by rw [LineTokens.read, LineTokens.textAndRest_quoted]; rfl⟩
  | link label url => exact ⟨.link, rfl, rfl⟩
  | scope scheme name description =>
      refine ⟨.scope, rfl, ?_⟩
      simp [LineTokens.read, LineTokens.scope, LineTokens.ofPieces, LineTokens.ofTokens,
        Piece.token, requireText, bind, Except.bind, pure, Except.pure]
  | info title version description closed unmarked =>
      have positional : ∀ piece ∈ Piece.quoted title :: (version.map Piece.bare).toList ++
          [Piece.quoted description], piece.isPositional = true := by
        cases version <;> simp [Piece.isPositional]
      refine ⟨.info, rfl, ?_⟩
      rw [LineTokens.ofPieces_eq fits positional, LineTokens.read,
        LineTokens.info_of_version closed unmarked]
      rfl
  | contact name email url free trimmed alone web informative =>
      have positional : ∀ piece ∈ Piece.quoted name :: Piece.angle email ::
          (url.map Piece.bare).toList, piece.isPositional = true := by
        cases url <;> simp [Piece.isPositional]
      refine ⟨.contact, rfl, ?_⟩
      rw [LineTokens.ofPieces_eq fits positional, LineTokens.read, LineTokens.contact_of_web alone
        (fun word given => isWebUrl_of_start (web word given)) informative]
      rfl
  | security name kind arguments description bearerFormat closed =>
      rw [List.append_cons] at fits ⊢
      have positional : ∀ piece ∈ Piece.quoted name :: Piece.quoted kind ::
          arguments.map Piece.bare ++ [Piece.quoted description], piece.isPositional = true := by
        simp [or_imp, forall_and, Piece.isPositional]
      refine ⟨.security, rfl, ?_⟩
      rw [LineTokens.ofPieces_append (List.forall_mem_append.1 fits).1 positional,
        ofPieces_flagPieces, List.append_nil, LineTokens.read,
        LineTokens.security_of_arguments closed]
      rfl

/-- Every line about the interface as a whole is read as the annotation it is written for. -/
theorem parseLine_of_globalLine {verb : String} (written : GlobalLine meaning word pieces)
    (spelled : asciiLower verb = word) :
    parseLine (writeLine verb pieces) = .ok (some meaning) := by
  obtain ⟨kind, known, read⟩ := written.read_eq
  rw [parseLine_writeLine spelled known written.fits, read]
  rfl

theorem parseLine_contact_of_team :
    parseLine "!Contact \"The \\\"A\\\" team\" <a@b.example> https://b.example/?q=a:b".toList =
      .ok (some (.contact {
        name := "The \"A\" team"
        email := "a@b.example"
        url := "https://b.example/?q=a:b" })) := by
  have line : "!Contact \"The \\\"A\\\" team\" <a@b.example> https://b.example/?q=a:b".toList =
      writeLine "Contact" [.quoted "The \"A\" team", .angle "a@b.example",
        .bare "https://b.example/?q=a:b"] := by
    decide
  have alone : LexesAlone "https://b.example/?q=a:b".toList
      (.word "https://b.example/?q=a:b") :=
    ⟨by with_unfolding_all rfl, by decide⟩
  rw [line]
  exact parseLine_of_globalLine
    (.contact "The \"A\" team" "a@b.example" (some "https://b.example/?q=a:b")
      (by decide) (by decide) (by simpa using alone) (by simp) (by decide))
    (by decide)

end DocApi
