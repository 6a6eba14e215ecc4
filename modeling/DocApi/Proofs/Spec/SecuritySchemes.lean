import DocApi.Proofs.Spec.Phases

/-!
# The security schemes of a specification

A security line declares a scheme, and a scope line adds a scope to the flows of a scheme that is
declared already. Over any number of files the schemes therefore stand in the order of their first
declarations, each is what its last declaration says, and its flow has the scopes that come after
that declaration: a new declaration of a name starts without scopes, and scopes of a name that is
not declared yet, or of a scheme without flows, are lost.
-/

namespace DocApi

/-! ## Lines about security schemes -/

/-- A line that declares a security scheme, or one that adds a scope to it. -/
inductive SecurityNote where
  | declares (line : SecurityLine)
  | grants (line : ScopeLine)

/-- What an annotation says about security schemes. -/
def Annotation.securityNote? : Annotation → Option SecurityNote
  | .security line => some (.declares line)
  | .scope line => some (.grants line)
  | _ => none

/-- What the doc comments of a file say about security schemes, in order. -/
def Declarations.securityNotes (file : Declarations) : List SecurityNote :=
  file.docBlocks.flatMap fun block => (annotations block).filterMap Annotation.securityNote?

namespace SecurityNote

/-- The name of the scheme that a line declares. -/
def declaredName? : SecurityNote → Option String
  | .declares line => some line.name
  | .grants _ => none

/-- The scope that a line adds to the scheme `name`, with its description. -/
def scopeOf? (name : String) : SecurityNote → Option (String × String)
  | .declares _ => none
  | .grants line => if line.scheme = name then some (line.name, line.description) else none

/-- What one line does to the schemes that are declared. -/
def apply (schemes : Keyed SecurityScheme) : SecurityNote → Keyed SecurityScheme
  | .declares line => Keyed.put schemes line.name (.ofLine line)
  | .grants line =>
      Keyed.adjust schemes line.scheme (·.addScope line.name line.description)

end SecurityNote

/-- Only annotations about the interface as a whole speak of security schemes. -/
theorem Annotation.securityNote?_of_not_global {note : Annotation}
    (elsewhere : note.isGlobal = false) : note.securityNote? = none := by
  cases note with
  | security line => simp [isGlobal] at elsewhere
  | scope line => simp [isGlobal] at elsewhere
  | _ => rfl

/-! ## Flows -/

/-- The flows that are there. -/
def OAuthFlows.present (flows : OAuthFlows) : List OAuthFlow :=
  [flows.implicit, flows.password, flows.clientCredentials, flows.authorizationCode].filterMap id

theorem OAuthFlows.present_mapFlows (change : OAuthFlow → OAuthFlow) (flows : OAuthFlows) :
    (flows.mapFlows change).present = flows.present.map change := by
  rcases flows with ⟨implicit, password, clientCredentials, authorizationCode⟩
  cases implicit <;> cases password <;> cases clientCredentials <;> cases authorizationCode <;> rfl

/-- Only the flows that are there are changed. -/
theorem OAuthFlows.mapFlows_congr {flows : OAuthFlows} {first second : OAuthFlow → OAuthFlow}
    (same : ∀ flow ∈ flows.present, first flow = second flow) :
    flows.mapFlows first = flows.mapFlows second := by
  rcases flows with ⟨implicit, password, clientCredentials, authorizationCode⟩
  have each : ∀ slot ∈ [implicit, password, clientCredentials, authorizationCode],
      slot.map first = slot.map second := by
    intro slot member
    refine Option.map_congr fun flow found => same flow ?_
    exact List.mem_filterMap.2 ⟨slot, member, found⟩
  simp [mapFlows, each]

theorem OAuthFlows.mapFlows_mapFlows (first second : OAuthFlow → OAuthFlow) (flows : OAuthFlows) :
    (flows.mapFlows first).mapFlows second = flows.mapFlows (second ∘ first) := by
  simp [mapFlows]

/-- The arguments of a line give one flow at most, and no scopes. -/
theorem OAuthFlows.present_ofArguments {word : String} {first second : Option String}
    {flows : OAuthFlows} (found : ofArguments word first second = some flows) :
    ∃ flow, flows.present = [flow] ∧ flow.scopes = [] := by
  simp only [ofArguments] at found
  split at found
  · obtain rfl := Option.some.inj found
    exact ⟨_, rfl, rfl⟩
  split at found
  · obtain rfl := Option.some.inj found
    exact ⟨_, rfl, rfl⟩
  split at found
  · obtain rfl := Option.some.inj found
    exact ⟨_, rfl, rfl⟩
  split at found
  · obtain rfl := Option.some.inj found
    exact ⟨_, rfl, rfl⟩
  split at found
  · obtain rfl := Option.some.inj found
    exact ⟨_, rfl, rfl⟩
  · cases found

namespace SecurityScheme

/-- The scheme with a change made in each of its flows. -/
def mapFlows (change : OAuthFlow → OAuthFlow) (scheme : SecurityScheme) : SecurityScheme :=
  { scheme with flows := scheme.flows.map (·.mapFlows change) }

/-- The scheme with the given scopes in each of its flows. -/
def withScopes (scheme : SecurityScheme) (scopes : Keyed String) : SecurityScheme :=
  scheme.mapFlows fun flow => { flow with scopes }

theorem isSome_flows_withScopes (scheme : SecurityScheme) (scopes : Keyed String) :
    (scheme.withScopes scopes).flows.isSome = scheme.flows.isSome :=
  Option.isSome_map

theorem mapFlows_mapFlows (first second : OAuthFlow → OAuthFlow) (scheme : SecurityScheme) :
    (scheme.mapFlows first).mapFlows second = scheme.mapFlows (second ∘ first) := by
  simp only [mapFlows, Option.map_map]
  congr 2
  funext flows
  exact flows.mapFlows_mapFlows first second

theorem mapFlows_id (scheme : SecurityScheme) : scheme.mapFlows id = scheme := by
  rcases scheme with ⟨type, text, parameter, location, header, bearerFormat, flows, url⟩
  simp [mapFlows, OAuthFlows.mapFlows]

theorem mapFlows_congr {scheme : SecurityScheme} {first second : OAuthFlow → OAuthFlow}
    (same : ∀ flows, scheme.flows = some flows →
      ∀ flow ∈ flows.present, first flow = second flow) :
    scheme.mapFlows first = scheme.mapFlows second := by
  rw [mapFlows, mapFlows]
  congr 1
  exact Option.map_congr fun flows found => OAuthFlows.mapFlows_congr (same flows found)

/-- Only schemes of the kind `oauth2` have flows. -/
theorem kind_of_flows_ofLine {line : SecurityLine} {flows : OAuthFlows}
    (found : (ofLine line).flows = some flows) :
    asciiLower line.kind = "oauth2" ∧
      ∃ word first second, OAuthFlows.ofArguments word first second = some flows := by
  simp only [ofLine] at found
  split at found
  · cases found
  split at found
  · cases found
  split at found
  · rename_i kind
    exact ⟨kind, _, _, _, found⟩
  split at found <;> cases found

theorem addScope_of_flows_none {scheme : SecurityScheme} (bare : scheme.flows = none)
    (name description : String) : scheme.addScope name description = scheme := by
  rcases scheme with ⟨type, text, parameter, location, header, bearerFormat, flows, url⟩
  obtain rfl : flows = none := bare
  rfl

/-- Adding scopes one by one files them in every flow. -/
theorem foldl_addScope (scheme : SecurityScheme) (scopes : Keyed String) :
    scopes.foldl (fun scheme scope => scheme.addScope scope.1 scope.2) scheme =
      scheme.mapFlows fun flow => { flow with scopes := Keyed.putAll flow.scopes scopes } := by
  induction scopes generalizing scheme with
  | nil => exact scheme.mapFlows_id.symm
  | cons scope scopes induction =>
      rw [List.foldl_cons, induction]
      exact mapFlows_mapFlows _ _ scheme

/-- A line declares no scopes. -/
theorem scopes_of_flows_ofLine {line : SecurityLine} {flows : OAuthFlows}
    (found : (ofLine line).flows = some flows) : ∀ flow ∈ flows.present, flow.scopes = [] := by
  obtain ⟨-, word, first, second, arguments⟩ := kind_of_flows_ofLine found
  obtain ⟨only, present, empty⟩ := OAuthFlows.present_ofArguments arguments
  intro flow member
  rw [present, List.mem_singleton] at member
  rw [member, empty]

/-- A scheme with other scopes is, these apart, the scheme itself. -/
theorem withScopes_nil_withScopes_ofLine (line : SecurityLine) (scopes : Keyed String) :
    ((ofLine line).withScopes scopes).withScopes [] = ofLine line := by
  rw [withScopes, withScopes, mapFlows_mapFlows]
  conv_rhs => rw [← mapFlows_id (ofLine line)]
  refine mapFlows_congr fun flows found flow member => ?_
  simp [← scopes_of_flows_ofLine found flow member]

/-- A scheme that a line declares has flows only if it is of the kind `oauth2`, and then it has
exactly one. -/
theorem flows_withScopes_ofLine {line : SecurityLine} {scopes : Keyed String} {flows : OAuthFlows}
    (found : ((ofLine line).withScopes scopes).flows = some flows) :
    asciiLower line.kind = "oauth2" ∧ ∃ flow, flows.present = [flow] ∧ flow.scopes = scopes := by
  obtain ⟨declared, inLine, rfl⟩ := Option.map_eq_some_iff.1 found
  obtain ⟨kind, word, first, second, arguments⟩ := kind_of_flows_ofLine inLine
  obtain ⟨only, present, -⟩ := OAuthFlows.present_ofArguments arguments
  refine ⟨kind, { only with scopes }, ?_, rfl⟩
  rw [OAuthFlows.present_mapFlows, present, List.map_singleton]

end SecurityScheme

namespace SecurityNote

/-! ## Runs of lines -/

theorem keys_apply (schemes : Keyed SecurityScheme) (note : SecurityNote) :
    Keyed.keys (note.apply schemes) =
      match note.declaredName? with
      | some name =>
          if name ∈ Keyed.keys schemes then Keyed.keys schemes else Keyed.keys schemes ++ [name]
      | none => Keyed.keys schemes := by
  cases note with
  | declares line => exact Keyed.keys_put schemes line.name _
  | grants line => exact Keyed.keys_adjust schemes line.scheme _

/-- Schemes stand in the order of their first declarations. -/
theorem keys_foldl_apply (notes : List SecurityNote) :
    Keyed.keys (notes.foldl apply []) = (notes.filterMap declaredName?).eraseDups := by
  induction notes using List.reverseRecOn with
  | nil => rfl
  | append_singleton notes note induction =>
      rw [List.foldl_append, List.foldl_cons, List.foldl_nil, keys_apply, induction,
        List.filterMap_append]
      cases declared : note.declaredName? with
      | none => simp [declared]
      | some name => simp [declared, Keyed.eraseDups_concat]

/-- A line that does not declare a name adds its scope to the scheme of that name, if it is one for
it, and otherwise leaves the scheme alone. -/
theorem at?_apply {note : SecurityNote} {name : String} (other : note.declaredName? ≠ some name)
    (schemes : Keyed SecurityScheme) :
    Keyed.at? (note.apply schemes) name =
      (Keyed.at? schemes name).map fun scheme =>
        (note.scopeOf? name).toList.foldl (fun scheme scope => scheme.addScope scope.1 scope.2)
          scheme := by
  cases note with
  | declares line =>
      have different : name ≠ line.name := fun equality => other (by rw [equality]; rfl)
      simp [apply, Keyed.at?_put, different, scopeOf?]
  | grants line =>
      by_cases same : line.scheme = name
      · subst same
        simp [apply, Keyed.at?_adjust, scopeOf?]
      · have different : name ≠ line.scheme := fun equality => same equality.symm
        simp [apply, Keyed.at?_adjust, scopeOf?, same, different]

/-- While a name is not declared again, its scheme gains the scopes of the lines for it. -/
theorem at?_foldl_apply {notes : List SecurityNote} {name : String}
    (others : ∀ note ∈ notes, note.declaredName? ≠ some name) (schemes : Keyed SecurityScheme) :
    Keyed.at? (notes.foldl apply schemes) name =
      (Keyed.at? schemes name).map fun scheme =>
        (notes.filterMap (scopeOf? name)).foldl
          (fun scheme scope => scheme.addScope scope.1 scope.2) scheme := by
  induction notes generalizing schemes with
  | nil => simp
  | cons note notes induction =>
      have other := others note List.mem_cons_self
      have later := fun next member => others next (List.mem_cons_of_mem note member)
      rw [List.foldl_cons, induction later, at?_apply other, Option.map_map]
      congr 1
      funext scheme
      cases scope : note.scopeOf? name <;> simp [scope]

/-- After its last declaration a scheme is what that line says, with the scopes that follow. -/
theorem at?_of_last_declaration (before : List SecurityNote) {line : SecurityLine}
    {after : List SecurityNote} (last : ∀ later ∈ after, later.declaredName? ≠ some line.name) :
    Keyed.at? ((before ++ .declares line :: after).foldl apply []) line.name =
      some ((SecurityScheme.ofLine line).withScopes
        (Keyed.putAll [] (after.filterMap (scopeOf? line.name)))) := by
  rw [List.foldl_append, List.foldl_cons, at?_foldl_apply last, apply, Keyed.at?_put, if_pos rfl,
    Option.map_some, SecurityScheme.foldl_addScope]
  congr 1
  refine SecurityScheme.mapFlows_congr fun flows found flow member => ?_
  rw [SecurityScheme.scopes_of_flows_ofLine found flow member]

end SecurityNote

namespace Spec

/-! ## Runs over files -/

theorem apply_securitySchemes (spec : Spec) (note : Annotation) :
    (spec.apply note).securitySchemes =
      note.securityNote?.toList.foldl SecurityNote.apply spec.securitySchemes := by
  cases note <;> rfl

theorem foldl_apply_securitySchemes (spec : Spec) (notes : List Annotation) :
    ((notes.filter Annotation.isGlobal).foldl apply spec).securitySchemes =
      (notes.filterMap Annotation.securityNote?).foldl SecurityNote.apply spec.securitySchemes := by
  induction notes generalizing spec with
  | nil => rfl
  | cons note notes induction =>
      by_cases global : note.isGlobal = true
      · rw [List.filter_cons_of_pos global, List.foldl_cons, induction, apply_securitySchemes]
        cases spoken : note.securityNote? <;> simp [spoken]
      · have nothing : note.securityNote? = none :=
          Annotation.securityNote?_of_not_global (by simpa using global)
        rw [List.filter_cons_of_neg global, induction, List.filterMap_cons_none nothing]

theorem foldl_addBlock_securitySchemes (spec : Spec) (blocks : List String) :
    (blocks.foldl addBlock spec).securitySchemes =
      (blocks.flatMap fun block =>
        (annotations block).filterMap Annotation.securityNote?).foldl SecurityNote.apply
          spec.securitySchemes := by
  induction blocks generalizing spec with
  | nil => rfl
  | cons block blocks induction =>
      rw [List.foldl_cons, induction, addBlock, foldl_apply_securitySchemes, List.flatMap_cons,
        List.foldl_append]

/-- The schemes of files are what the lines about them leave behind, one after the other. -/
theorem foldl_walk_securitySchemes (spec : Spec) (files : List Declarations) :
    (files.foldl walk spec).securitySchemes =
      (files.flatMap Declarations.securityNotes).foldl SecurityNote.apply
        spec.securitySchemes := by
  induction files generalizing spec with
  | nil => rfl
  | cons file files induction =>
      have walked : (spec.walk file).securitySchemes =
          file.securityNotes.foldl SecurityNote.apply spec.securitySchemes := by
        rw [walk_eq]
        exact foldl_addBlock_securitySchemes spec file.docBlocks
      rw [List.foldl_cons, induction, walked, List.flatMap_cons, List.foldl_append]

/-- A scope for a scheme that is not declared, or that has no flows, changes nothing. -/
theorem apply_scope_of_no_flows {spec : Spec} {line : ScopeLine}
    (idle : ∀ scheme, Keyed.at? spec.securitySchemes line.scheme = some scheme →
      scheme.flows = none) : spec.apply (.scope line) = spec := by
  have kept : Keyed.adjust spec.securitySchemes line.scheme
      (·.addScope line.name line.description) = spec.securitySchemes :=
    Keyed.adjust_eq_self fun scheme found =>
      SecurityScheme.addScope_of_flows_none (idle scheme found) _ _
  rw [apply, kept]

/-- The security schemes of files stand in the order of their first declarations. Each one is what
the last line that declares its name says, scopes apart; only a line of the kind `oauth2` gives it
flows, and then it has exactly one. The scopes of this flow are those given for the name after that
line, in the order in which they first occur and with their last descriptions. A scope for a name
that is not declared, or for a scheme without flows, changes nothing. -/
theorem securitySchemes_last_declaration (files : List Declarations) :
    let schemes := (files.foldl walk {}).securitySchemes
    let notes := files.flatMap Declarations.securityNotes
    Keyed.keys schemes = (notes.filterMap SecurityNote.declaredName?).eraseDups ∧
      (∀ (before : List SecurityNote) (line : SecurityLine) (after : List SecurityNote),
        notes = before ++ .declares line :: after →
        (∀ later ∈ after, later.declaredName? ≠ some line.name) →
        ∃ scheme, Keyed.at? schemes line.name = some scheme ∧
          scheme.withScopes [] = .ofLine line ∧
          ∀ flows, scheme.flows = some flows →
            asciiLower line.kind = "oauth2" ∧
            ∃ flow, flows.present = [flow] ∧
              let scopes := after.filterMap (SecurityNote.scopeOf? line.name)
              Keyed.keys flow.scopes = (Keyed.keys scopes).eraseDups ∧
              ∀ name, Keyed.at? flow.scopes name =
                ((scopes.filter fun scope => scope.1 = name).getLast?).map Prod.snd) ∧
      ∀ (spec : Spec) (line : ScopeLine),
        (∀ scheme, Keyed.at? spec.securitySchemes line.scheme = some scheme →
          scheme.flows = none) →
        spec.apply (.scope line) = spec := by
  intro schemes notes
  have run : schemes = notes.foldl SecurityNote.apply [] := foldl_walk_securitySchemes {} files
  refine ⟨?_, ?_, ?_⟩
  · rw [run]
    exact SecurityNote.keys_foldl_apply notes
  · intro before line after split last
    have filed := SecurityNote.at?_of_last_declaration before last
    rw [← split, ← run] at filed
    refine ⟨_, filed, SecurityScheme.withScopes_nil_withScopes_ofLine line _, ?_⟩
    intro flows found
    obtain ⟨kind, flow, present, scopes⟩ := SecurityScheme.flows_withScopes_ofLine found
    refine ⟨kind, flow, present, ?_, ?_⟩
    · rw [scopes]
      exact Keyed.keys_putAll _
    · intro name
      rw [scopes]
      exact Keyed.at?_putAll _ name
  · intro spec line idle
    exact apply_scope_of_no_flows idle

/-! ## A scheme that is declared again -/

/-- Declares two schemes with keys. The scope in front of them comes too early. -/
def keysFile : Declarations where
  docBlocks :=
    ["!scope auth admin Early", "!security auth apikey header\n!security key apikey query"]

/-- Declares the scheme `auth` again, and gives it the scope `read` twice. -/
def flowFile : Declarations where
  docBlocks :=
    ["!security auth oauth2 password\n!scope auth read Some\n!scope key read Keys",
      "!scope auth write All\n!scope auth read Pets"]

/-- What a line says that declares the scheme `name`. -/
def schemeLine (name kind word : String) : SecurityLine where
  name
  kind
  arguments := [word]
  description := ""
  bearerFormat := none

theorem securityNotes_keysFile :
    keysFile.securityNotes =
      [.grants ⟨"auth", "admin", "Early"⟩, .declares (schemeLine "auth" "apikey" "header"),
        .declares (schemeLine "key" "apikey" "query")] := by
  with_unfolding_all rfl

theorem securityNotes_flowFile :
    flowFile.securityNotes =
      [.declares (schemeLine "auth" "oauth2" "password"), .grants ⟨"auth", "read", "Some"⟩,
        .grants ⟨"key", "read", "Keys"⟩, .grants ⟨"auth", "write", "All"⟩,
        .grants ⟨"auth", "read", "Pets"⟩] := by
  with_unfolding_all rfl

/-- The scheme `auth` keeps its place and becomes one with a flow. The flow has the two scopes that
come after it, with their last descriptions, and not the early one; `key`, which has no flow, has
no scopes either. -/
theorem securitySchemes_of_redeclared_auth :
    let spec := [keysFile, flowFile].foldl walk {}
    Keyed.keys spec.securitySchemes = ["auth", "key"] ∧
      (∃ scheme flows flow, Keyed.at? spec.securitySchemes "auth" = some scheme ∧
        scheme.type = some "oauth2" ∧ scheme.flows = some flows ∧ flows.present = [flow] ∧
        Keyed.keys flow.scopes = ["read", "write"] ∧
        Keyed.at? flow.scopes "read" = some "Pets" ∧
        Keyed.at? flow.scopes "write" = some "All") ∧
      spec.apply (.scope ⟨"key", "read", "Keys"⟩) = spec := by
  intro spec
  obtain ⟨order, last, idle⟩ := securitySchemes_last_declaration [keysFile, flowFile]
  have notes : [keysFile, flowFile].flatMap Declarations.securityNotes =
      keysFile.securityNotes ++ flowFile.securityNotes := by
    simp
  rw [securityNotes_keysFile, securityNotes_flowFile] at notes
  refine ⟨?_, ?_, ?_⟩
  · rw [order, notes]
    decide
  · obtain ⟨scheme, filed, said, flow⟩ := last _ _ _ notes (by decide)
    have flowing : scheme.flows.isSome = true := by
      rw [← scheme.isSome_flows_withScopes [], said]
      decide
    obtain ⟨flows, found⟩ := Option.isSome_iff_exists.1 flowing
    obtain ⟨-, flow, present, names, scopes⟩ := flow flows found
    exact ⟨scheme, flows, flow, filed, congrArg SecurityScheme.type said, found, present, names,
      scopes "read", scopes "write"⟩
  · refine idle spec _ fun scheme found => ?_
    obtain ⟨filed, known, said, -⟩ :=
      last [.grants ⟨"auth", "admin", "Early"⟩, .declares (schemeLine "auth" "apikey" "header")]
        (schemeLine "key" "apikey" "query") _ notes (by decide)
    obtain rfl := Option.some.inj (found.symm.trans known)
    have still : scheme.flows.isSome = false := by
      rw [← scheme.isSome_flows_withScopes [], said]
      decide
    exact Option.isNone_iff_eq_none.1 (Option.isSome_eq_false_iff.1 still)

end Spec
end DocApi
