import AnnotatedSql.Proofs.Compiler.Course

/-!
# How a compilation fails

The faults of a statement, of its directives and of the columns that are
reported for its wildcards are passed on with the name of the statement
behind their wording, and what the database says is passed on as it is.  Of
the other faults that a compilation can have in principle, those of tokens
and of nodes of the wrong kind do not occur with tokens of letters and digits
and with the tags of the language.  What is left is one fault that does not
name its statement: a column with the name of a sentinel whose number has
more digits than can be read.
-/

namespace AnnotatedSql

open AnnotatedSql.Markup AnnotatedSql.Schema AnnotatedSql.Wildcard

/-! ## Reading blames the directive -/

namespace Wildcard.TokenSupply

/-- All texts of the supply are made of ASCII letters and digits. -/
def Alphanumeric (supply : TokenSupply) : Prop :=
  ∀ text ∈ supply.next :: supply.later, ∀ point ∈ text,
    (point.isAsciiLetter || point.isAsciiDigit) = true

variable {supply : TokenSupply}

theorem Alphanumeric.left
    (alphanumeric : supply.Alphanumeric) :
    supply.draw.2.Alphanumeric := by
  rcases supply with ⟨next, _ | ⟨second, later⟩⟩
  · exact alphanumeric
  · intro text within
    exact alphanumeric text (List.mem_cons_of_mem _ within)

/-- What is drawn is a token. -/
theorem Alphanumeric.exists_token
    (alphanumeric : supply.Alphanumeric) :
    ∃ token, MarkerToken.ofText? supply.draw.1 = some token := by
  refine MarkerToken.exists_ofText?_of_isPlainToken
    ⟨⟨CodePoint.scalar 'w', rfl, rfl⟩, ?_⟩
  intro point within
  rcases List.mem_append.1 within with stem | drawn
  · have letters :
        ∀ point ∈ TokenSupply.stem,
          (point.isAsciiLetter || point.isAsciiDigit) = true := by
      decide
    exact letters point stem
  · exact alphanumeric _ List.mem_cons_self point drawn

end Wildcard.TokenSupply

namespace Directive

/-- A read with a supply of letters and digits leaves such a supply, and if it
fails, a directive is at fault. -/
structure BlamesDirective
    {Value : Type}
    (read : Except ReadError Value × Draft) : Prop where
  alphanumeric : read.2.supply.Alphanumeric
  directive_of_error :
    ∀ error, read.1 = .error error → ∃ fault, error = .directive fault

variable
    {catalog : Catalog}
    {element : Element}
    {draft : Draft}
    {Value : Type}

theorem BlamesDirective.of_ok
    {value : Value}
    (alphanumeric : draft.supply.Alphanumeric) :
    BlamesDirective (.ok value, draft) where
  alphanumeric := alphanumeric
  directive_of_error := nofun

theorem BlamesDirective.of_directive
    {fault : DirectiveError}
    (alphanumeric : draft.supply.Alphanumeric) :
    @BlamesDirective Value (.error (.directive fault), draft) where
  alphanumeric := alphanumeric
  directive_of_error := by
    rintro error ⟨⟩
    exact ⟨fault, rfl⟩

theorem blamesDirective_readArgument
    (alphanumeric : draft.supply.Alphanumeric) :
    BlamesDirective (readArgument element draft) := by
  unfold readArgument
  simp only
  split
  · exact .of_directive alphanumeric
  · exact .of_ok alphanumeric

theorem blamesDirective_readAssignments
    {assignments : Except DirectiveError (Dictionary Text)}
    (alphanumeric : draft.supply.Alphanumeric) :
    BlamesDirective (readAssignments assignments draft) := by
  unfold readAssignments
  split
  · exact .of_directive alphanumeric
  · exact .of_ok alphanumeric

theorem exists_wildcardsWith
    (alphanumeric : draft.supply.Alphanumeric) :
    ∃ resolution after,
      draft.wildcardsWith TokenSupply.draw = (.ok resolution, after) ∧
      after.supply.Alphanumeric := by
  unfold Draft.wildcardsWith
  split
  · exact ⟨_, _, rfl, alphanumeric⟩
  · rcases alphanumeric.exists_token with ⟨token, token_eq⟩
    simp only [token_eq]
    exact ⟨_, _, rfl, alphanumeric.left⟩

theorem blamesDirective_readWildcard
    (alphanumeric : draft.supply.Alphanumeric) :
    BlamesDirective (readWildcard catalog element draft) := by
  unfold readWildcard
  split
  · exact .of_directive alphanumeric
  · rcases exists_wildcardsWith alphanumeric with
      ⟨resolution, after, made, left⟩
    rw [made]
    exact .of_ok left

theorem blamesDirective_readElement
    {kind : DirectiveKind}
    (notText : kind ≠ .text)
    (alphanumeric : draft.supply.Alphanumeric) :
    BlamesDirective (readElement catalog kind element draft) := by
  cases kind with
  | argument => exact blamesDirective_readArgument alphanumeric
  | binding => exact blamesDirective_readAssignments alphanumeric
  | bindings => exact blamesDirective_readAssignments alphanumeric
  | replacement =>
      rw [readElement]
      split
      · exact .of_directive alphanumeric
      · exact .of_ok alphanumeric
  | wildcard => exact blamesDirective_readWildcard alphanumeric
  | text => exact absurd rfl notText

end Directive

/-- No tag of the registry stands for text. -/
def Registry.NamesElements (registry : Registry) : Prop :=
  ∀ tag, registry.kind tag ≠ .ok .text

theorem Registry.namesElements_standard : standard.NamesElements := by
  intro tag found
  unfold kind at found
  split at found
  · next kind kind_eq =>
    cases found
    rcases List.lookup_eq_some_iff.1 kind_eq with ⟨before, after, kinds_eq, _⟩
    have within : (tag, DirectiveKind.text) ∈ standard.kinds := by
      rw [kinds_eq]
      exact List.mem_append_right _ List.mem_cons_self
    simp [standard] at within
  · cases found

namespace Compiler

variable
    {compiler : Compiler}
    {draft : Draft}

theorem blamesDirective_readDirective
    (namesElements : compiler.registry.NamesElements)
    (node : Node)
    (alphanumeric : draft.supply.Alphanumeric) :
    Directive.BlamesDirective (compiler.readDirective node draft) := by
  cases node with
  | text value => exact .of_ok alphanumeric
  | element tag attributes children line =>
      unfold readDirective
      split
      · exact .of_directive alphanumeric
      · next kind kind_eq =>
        refine Directive.blamesDirective_readElement ?_ alphanumeric
        rintro rfl
        exact namesElements tag kind_eq

theorem blamesDirective_readBody
    (namesElements : compiler.registry.NamesElements)
    (nodes : List Node)
    (alphanumeric : draft.supply.Alphanumeric) :
    Directive.BlamesDirective (compiler.readBody draft nodes) := by
  induction nodes generalizing draft with
  | nil => exact .of_ok alphanumeric
  | cons node nodes induction_hypothesis =>
      have first :=
        blamesDirective_readDirective namesElements node alphanumeric
      rw [readBody]
      split
      · next error after read =>
        rw [read] at first
        rcases first.directive_of_error error rfl with ⟨fault, rfl⟩
        exact .of_directive first.alphanumeric
      · next directive after read =>
        rw [read] at first
        have others := induction_hypothesis first.alphanumeric
        split
        · next error after' read' =>
          rw [read'] at others
          rcases others.directive_of_error error rfl with ⟨fault, rfl⟩
          exact .of_directive others.alphanumeric
        · next directives after' read' =>
          rw [read'] at others
          exact .of_ok others.alphanumeric

end Compiler

/-! ## Attribution blames the reply -/

namespace Wildcard.MarkerToken

variable {token : MarkerToken}

/-- A name is a sentinel's whose number has too many digits. -/
def Overlong (token : MarkerToken) (name digits : Text) : Prop :=
  Numeral.longest < digits.length ∧
    ∃ isBegin, token.sentinelParts? name = some (digits, isBegin)

/-- The names that do not decode are those of sentinels with too many digits. -/
theorem overlong_of_decode
    {name : Text}
    {error : Numeral.ReadError}
    (refused : token.decode name = .error error) :
    ∃ digits, token.Overlong name digits ∧ error = .tooLong digits.length := by
  unfold decode at refused
  split at refused
  · cases refused
  · next digits isBegin parts =>
    split at refused
    · cases refused
    · next error' read =>
      cases refused
      rcases sentinelParts?_eq_some_iff.1 parts with ⟨spelling, _, rfl, _⟩
      rcases spelling.isNumeral.read_eq_error_iff.1 read with
        ⟨overlong, error_eq⟩
      exact ⟨_, ⟨overlong, isBegin, parts⟩, error_eq⟩

/-- A sentinel whose number has too many digits does not decode. -/
theorem decode_overlong
    (token : MarkerToken)
    {digits : Text}
    (decimal : ∀ point ∈ digits, point.isDecimal = true)
    (overlong : Numeral.longest < digits.length) :
    token.decode (token.text ++ ("_" ++ (digits ++ "_b"))) =
      .error (.tooLong digits.length) := by
  have nonempty : digits ≠ [] := by
    rintro rfl
    exact absurd overlong (Nat.not_lt_zero _)
  let spelling : Spelling token :=
    ⟨token.text, digits, 'b', [], true, rfl, ⟨nonempty, decimal⟩, rfl, .inl rfl⟩
  have name_eq :
      spelling.name = token.text ++ ("_" ++ (digits ++ "_b")) :=
    rfl
  rw [← name_eq, spelling.decode_name, spelling.isNumeral.read_of_long overlong]
  rfl

end Wildcard.MarkerToken

namespace Directive

/-- The first wildcard decides whether the result columns are attributed. -/
theorem processAll_outcome
    {directives : List Directive}
    {locals : StatementLocals}
    {resolution : Resolution}
    (found : locals.get? .wildcards = some resolution)
    (unprocessed : resolution.processed = false)
    (someWildcard : wildcards directives ≠ [])
    (columns : List ResultColumn) :
    (processAll columns locals directives).1 =
      (resolution.attributed columns).map fun _ => () := by
  cases attributed_eq : resolution.attributed columns with
  | ok attributed =>
      rcases processAll_of_wildcards found unprocessed someWildcard
        attributed_eq with ⟨after, processed⟩
      rw [processed]
      rfl
  | error error =>
      have refused : resolution.process columns =
          (.error error, columns, resolution) := by
        simp [Resolution.process, unprocessed, attributed_eq]
      induction directives with
      | nil => exact absurd rfl someWildcard
      | cons directive directives induction_hypothesis =>
          cases directive with
          | wildcard token expanded =>
              rw [processAll, processColumns_wildcard found, refused]
              rfl
          | text value => exact induction_hypothesis someWildcard
          | declaration => exact induction_hypothesis someWildcard
          | replacement probed final => exact induction_hypothesis someWildcard

end Directive

namespace Compiler

variable
    {compiler : Compiler}
    {definition : StatementDefinition}
    {session : Session}
    {directives : List Directive}
    {draft : Draft}

/-- Reading leaves the wildcards of a statement to be attributed. -/
theorem resolution_of_readBody
    {supply : TokenSupply}
    {nodes : List Node}
    (read : compiler.readBody { supply } nodes = (.ok directives, draft))
    (someWildcard : Directive.wildcards directives ≠ []) :
    ∃ resolution,
      draft.resolution? = some resolution ∧ resolution.Registered := by
  rcases List.exists_mem_of_ne_nil _ someWildcard with ⟨pair, member⟩
  have registers := (registers_of_readBody read).1
  rcases registers.has_token pair member with ⟨resolution, found, _⟩
  refine ⟨resolution, found, registers.registered ?_ resolution found⟩
  intro resolution' absent
  exact nomatch absent

/-- Attribution fails by a violation of the protocol or an overlong sentinel. -/
theorem cause_of_processAll
    {supply : TokenSupply}
    {nodes : List Node}
    {columns : List ResultColumn}
    {error : AttributionError}
    (read : compiler.readBody { supply } nodes = (.ok directives, draft))
    (refused :
      (Directive.processAll columns draft.locals directives).1 = .error error) :
    (∃ violation, error = .violation violation) ∨
      ∃ resolution, draft.resolution? = some resolution ∧
        ∃ column ∈ columns, ∃ digits,
          resolution.token.Overlong column.name digits ∧
          error = .numeral (.tooLong digits.length) := by
  by_cases someWildcard : Directive.wildcards directives = []
  · rw [Directive.processAll_of_no_wildcards someWildcard] at refused
    cases refused
  · rcases resolution_of_readBody read someWildcard with
      ⟨resolution, found, registered⟩
    rw [Directive.processAll_outcome found registered.unprocessed someWildcard,
      Outcome.map_eq_error_iff] at refused
    rcases Resolution.cause_of_attributeFrom refused with
      violated | ⟨column, member, cause, undecoded, rfl⟩
    · exact .inl violated
    · rcases MarkerToken.overlong_of_decode undecoded with
        ⟨digits, overlong, rfl⟩
      exact .inr ⟨resolution, found, column, member, digits, overlong, rfl⟩

/-! ## Whole compilations -/

/-- The fault of a failed compilation is one of its statement or the reply of
the database, or else a reported column is an overlong sentinel. -/
theorem fault_of_compile
    (standard : compiler.registry = .standard)
    (alphanumeric : session.supply.Alphanumeric)
    {error : CompileError}
    (failed : (compiler.compile definition session).1 = .error error) :
    error.statement = definition.name ∧
    ((∃ message,
        session.reply = .failure message ∧ error.fault = .database message) ∨
      error.fault.namesStatement = true ∨
      ∃ directives draft resolution descriptors,
        compiler.readBody { supply := session.supply } definition.body =
          (.ok directives, draft) ∧
        draft.resolution? = some resolution ∧
        session.reply = .columns descriptors ∧
        ∃ descriptor ∈ descriptors, ∃ digits,
          resolution.token.Overlong descriptor.name digits ∧
          error.fault = .numeral (.tooLong digits.length)) := by
  rcases course_of_compile compiler definition session with
    ⟨left, executed, course, _⟩
  rw [failed] at course
  cases course with
  | unread read =>
      have namesElements : compiler.registry.NamesElements :=
        standard ▸ Registry.namesElements_standard
      have blames := @blamesDirective_readBody compiler
        { supply := session.supply } namesElements definition.body alphanumeric
      rw [read] at blames
      rcases blames.directive_of_error _ rfl with ⟨fault, rfl⟩
      exact ⟨rfl, .inr (.inl rfl)⟩
  | wrongVerb read verb_eq => exact ⟨rfl, .inr (.inl rfl)⟩
  | refused read verb_eq reply_eq => exact ⟨rfl, .inl ⟨_, reply_eq, rfl⟩⟩
  | unattributed read verb_eq reply_eq processed =>
      rcases cause_of_processAll read processed with
        ⟨violation, rfl⟩ |
          ⟨resolution, found, column, member, digits, overlong, rfl⟩
      · exact ⟨rfl, .inr (.inl rfl)⟩
      · rcases List.mem_map.1 member with ⟨descriptor, reported, rfl⟩
        exact ⟨rfl, .inr (.inr ⟨_, _, resolution, _, read, found, reply_eq,
          descriptor, reported, digits, overlong, rfl⟩)⟩

/-- Columns that are not well bracketed, without an overlong sentinel among
them, end as a violation. -/
theorem violation_of_compile
    {resolution : Resolution}
    {descriptors : List ColumnDescriptor}
    (read :
      compiler.readBody { supply := session.supply } definition.body =
        (.ok directives, draft))
    (someWildcard : Directive.wildcards directives ≠ [])
    (found : draft.resolution? = some resolution)
    (verb_eq :
      verbOf definition.declared (compiler.query directives) = .ok .select)
    (reply_eq : session.reply = .columns descriptors)
    (notBracketed :
      ¬ resolution.WellBracketed (descriptors.map .ofDescriptor))
    (readable :
      ∀ descriptor ∈ descriptors, ∀ digits,
        ¬ resolution.token.Overlong descriptor.name digits) :
    ∃ violation,
      (compiler.compile definition session).1 =
        .error ⟨.violation violation, definition.name⟩ := by
  rcases resolution_of_readBody read someWildcard with
    ⟨resolution', found', registered⟩
  rw [found, Option.some.injEq] at found'
  subst found'
  have outcome_eq := Directive.processAll_outcome found registered.unprocessed
    someWildcard (descriptors.map .ofDescriptor)
  cases attributed_eq :
      resolution.attributed (descriptors.map .ofDescriptor) with
  | ok attributed =>
      rcases (Resolution.attributed_eq_ok_iff registered).1 attributed_eq with
        ⟨blocks, cut, _⟩
      exact absurd ⟨blocks, cut⟩ notBracketed
  | error error =>
      rw [attributed_eq] at outcome_eq
      rcases Resolution.cause_of_attributeFrom attributed_eq with
        ⟨violation, rfl⟩ | ⟨column, member, cause, undecoded, _⟩
      · exact ⟨violation, (compile_of_course
          (.unattributed read verb_eq reply_eq outcome_eq)).1⟩
      · rcases List.mem_map.1 member with ⟨descriptor, reported, rfl⟩
        rcases MarkerToken.overlong_of_decode undecoded with
          ⟨digits, overlong, _⟩
        exact absurd overlong (readable descriptor reported digits)

/--
With tokens of letters and digits and the tags of the language, a compilation
that fails does so in one of three ways.  The database has refused the query,
and its message is passed on as it is.  Or there is a fault of a directive, of
the statement or of the sentinel protocol, and behind its wording stands the
name of the statement, once.  Or the database has reported a column with the
name of a sentinel whose number has too many digits, and this is reported
without the name of the statement.  Columns that violate the sentinel protocol
and have no such name among them fail by a violation.
-/
theorem compile_failures
    (standard : compiler.registry = .standard)
    (alphanumeric : session.supply.Alphanumeric) :
    (∀ error,
      (compiler.compile definition session).1 = .error error →
        (session.reply = .failure error.message ∧
          error.fault = .database error.message) ∨
        (error.fault.namesStatement = true ∧
          error.message =
            error.fault.message ++ " (in statement '" ++ definition.name ++
              "')") ∨
        ∃ directives draft resolution descriptors,
          compiler.readBody { supply := session.supply } definition.body =
            (.ok directives, draft) ∧
          draft.resolution? = some resolution ∧
          session.reply = .columns descriptors ∧
          ∃ descriptor ∈ descriptors, ∃ digits,
            resolution.token.Overlong descriptor.name digits ∧
            error.fault = .numeral (.tooLong digits.length)) ∧
    (∀ directives draft resolution descriptors,
      compiler.readBody { supply := session.supply } definition.body =
        (.ok directives, draft) →
      Directive.wildcards directives ≠ [] →
      draft.resolution? = some resolution →
      verbOf definition.declared (compiler.query directives) = .ok .select →
      session.reply = .columns descriptors →
      ¬ resolution.WellBracketed (descriptors.map .ofDescriptor) →
      (∀ descriptor ∈ descriptors, ∀ digits,
        ¬ resolution.token.Overlong descriptor.name digits) →
        ∃ violation,
          (compiler.compile definition session).1 =
            .error ⟨.violation violation, definition.name⟩) := by
  refine ⟨?_, ?_⟩
  · intro error failed
    rcases fault_of_compile standard alphanumeric failed with
      ⟨name_eq, ⟨message, reply_eq, fault_eq⟩ | named | overlong⟩
    · have message_eq : error.message = message := by
        rw [CompileError.message, fault_eq]
        rfl
      rw [message_eq]
      exact .inl ⟨reply_eq, fault_eq⟩
    · refine .inr (.inl ⟨named, ?_⟩)
      rw [CompileError.message, if_pos named, name_eq, annotate]
    · exact .inr (.inr overlong)
  · intro directives draft resolution descriptors read someWildcard found
      verb_eq reply_eq notBracketed readable
    exact violation_of_compile read someWildcard found verb_eq reply_eq
      notBracketed readable

/-- The wildcards of the self-join, before its result columns are known. -/
def selfJoinResolution : Resolution where
  token := selfJoinToken
  wildcards :=
    [⟨0, selfJoinUser, "x"⟩, ⟨1, { name := "nothing" }, []⟩,
      ⟨2, selfJoinUser, "y"⟩]

theorem readBody_selfJoin :
    ∃ draft,
      selfJoinCompiler.readBody { supply := ⟨"0f", []⟩ }
          selfJoinDefinition.body =
        (.ok selfJoinDirectives, draft) ∧
      draft.resolution? = some selfJoinResolution :=
  ⟨_, rfl, rfl⟩

theorem verbOf_selfJoin :
    verbOf selfJoinDefinition.declared
      (selfJoinCompiler.query selfJoinDirectives) = .ok .select := by
  have isSelect :
      Verb.ofText (selfJoinCompiler.query selfJoinDirectives) =
        .ok .select := by
    cbv
  rw [verbOf, isSelect]
  rfl

theorem alphanumeric_selfJoin :
    TokenSupply.Alphanumeric ⟨"0f", []⟩ := by
  intro text within
  rw [List.mem_singleton.1 within]
  decide

/-- A reply that opens the first wildcard and does not close it. -/
def unclosedSession : Session where
  supply := ⟨"0f", []⟩
  replies := [.columns [⟨"wc0f_0_b", .unknown⟩]]

theorem compile_failures_unclosed :
    selfJoinCompiler.registry = .standard ∧
      unclosedSession.supply.Alphanumeric ∧
      ∃ error,
        (selfJoinCompiler.compile selfJoinDefinition unclosedSession).1 =
            .error error ∧
          error.fault.namesStatement = true ∧
          error.message =
            error.fault.message ++ " (in statement '" ++ "pairs" ++ "')" := by
  rcases readBody_selfJoin with ⟨draft, read, found⟩
  rcases @compile_failures selfJoinCompiler selfJoinDefinition unclosedSession
    rfl alphanumeric_selfJoin with ⟨failures, violations⟩
  have notBracketed :
      ¬ selfJoinResolution.WellBracketed
        [.ofDescriptor ⟨"wc0f_0_b", .unknown⟩] := by
    rintro ⟨blocks, cut⟩
    rcases resolution_of_readBody read (by decide) with
      ⟨resolution, found', registered⟩
    rw [found, Option.some.injEq] at found'
    subst found'
    have accepted := (Resolution.attributed_eq_ok_iff registered).2
      ⟨blocks, cut, rfl⟩
    have refused :
        selfJoinResolution.attributed
            [.ofDescriptor ⟨"wc0f_0_b", .unknown⟩] =
          .error (.violation (.missingEnd 0)) := by
      rfl
    rw [refused] at accepted
    cases accepted
  have readable (digits : Text) :
      ¬ selfJoinResolution.token.Overlong "wc0f_0_b" digits := by
    rintro ⟨overlong, isBegin, parts⟩
    have parts' : selfJoinToken.sentinelParts? "wc0f_0_b" =
        some (("0" : Text), true) := by
      rfl
    rw [show selfJoinResolution.token = selfJoinToken from rfl, parts'] at parts
    cases parts
    exact absurd overlong (by decide)
  rcases violations selfJoinDirectives draft selfJoinResolution
      [⟨"wc0f_0_b", .unknown⟩] read (by decide) found verbOf_selfJoin rfl
      notBracketed (by simpa using readable) with
    ⟨violation, failed⟩
  refine ⟨rfl, alphanumeric_selfJoin, _, failed, rfl, ?_⟩
  rcases failures _ failed with ⟨refused, _⟩ | ⟨_, message_eq⟩ | overlong
  · cases refused
  · exact message_eq
  · rcases overlong with ⟨_, _, _, _, _, _, _, _, _, _, _, impossible⟩
    cases impossible

/-- A sentinel with one digit more than can be read ends as a fault that
neither is the database's nor names the statement. -/
theorem not_compile_failures_of_overlong :
    ¬ ∀ (compiler : Compiler) (definition : StatementDefinition)
        (session : Session) (error : CompileError),
      compiler.registry = .standard →
      session.supply.Alphanumeric →
      (compiler.compile definition session).1 = .error error →
        session.reply = .failure error.message ∨
        error.fault.namesStatement = true := by
  intro policy
  rcases readBody_selfJoin with ⟨draft, read, found⟩
  have decimal : ∀ point ∈
      List.replicate (Numeral.longest + 1) (CodePoint.scalar '9'),
      point.isDecimal = true := by
    intro point within
    rw [List.eq_of_mem_replicate within]
    decide
  have undecoded := selfJoinToken.decode_overlong decimal (by simp)
  rw [List.length_replicate] at undecoded
  generalize selfJoinToken.text ++ _ = name at undecoded
  let descriptor : ColumnDescriptor := ⟨name, .unknown⟩
  let session : Session :=
    { supply := ⟨"0f", []⟩
      replies := [.columns [descriptor]] }
  have attributed :
      selfJoinResolution.attributed [.ofDescriptor descriptor] =
        .error (.numeral (.tooLong (Numeral.longest + 1))) :=
    Resolution.attributeFrom_undecoded none undecoded []
  have processed :
      (Directive.processAll [.ofDescriptor descriptor] draft.locals
        selfJoinDirectives).1 =
          .error (.numeral (.tooLong (Numeral.longest + 1))) := by
    rw [Directive.processAll_outcome found rfl (by decide), attributed]
    rfl
  have failed := (@compile_of_course selfJoinCompiler selfJoinDefinition session
    _ _ _ (.unattributed read verbOf_selfJoin rfl processed)).1
  rcases policy _ _ _ _ rfl alphanumeric_selfJoin failed with refused | named
  · cases refused
  · cases named

end Compiler

end AnnotatedSql
