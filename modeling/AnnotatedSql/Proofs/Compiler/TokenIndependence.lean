import AnnotatedSql.Proofs.Compiler.FailurePolicy
import AnnotatedSql.Proofs.Directive.Drawing
import AnnotatedSql.Proofs.Text.FirstWord
import AnnotatedSql.Proofs.Wildcard.TokenChange

/-!
# Compilations under two tokens

The token of a statement is drawn at random.  Here a definition is compiled
twice, with two tokens and with replies that differ by the names of sentinels
only.  The two runs are compared step by step: reading gives directives and
drafts that differ by the token, their queries begin with the same word, and
the walks over the replies agree.  So both compilations fail, or both succeed
with what is left of the token in the names of result columns only: the names
of sentinels that the statement does not have.
-/

namespace AnnotatedSql

open AnnotatedSql.Markup AnnotatedSql.Schema AnnotatedSql.Wildcard

/-! ## Reading under two tokens -/

/-- The same directive under another token. -/
def Directive.withToken (token : MarkerToken) : Directive → Directive
  | .wildcard _ expanded => .wildcard token expanded
  | .text value => .text value
  | .declaration => .declaration
  | .replacement probed final => .replacement probed final

namespace Draft

variable
    {token token' : MarkerToken}
    {draft draft' : Draft}

/-- Drafts of one statement under two tokens.  The wildcards have these
tokens, or there are no wildcards yet and the tokens are the next to be
drawn. -/
structure Alike
    (token token' : MarkerToken)
    (draft draft' : Draft) : Prop where
  arguments_eq : draft'.locals.arguments = draft.locals.arguments
  bindings_eq : draft'.locals.bindings = draft.locals.bindings
  wildcards :
    (draft.resolution? = none ∧ draft'.resolution? = none ∧
        draft.supply.draw.1 = token.text ∧
        draft'.supply.draw.1 = token'.text) ∨
      ∃ resolution : Resolution,
        resolution.token = token ∧
        draft.resolution? = some resolution ∧
        draft'.resolution? = some (resolution.withToken token')

/-- Reads of one thing under two tokens.  They fail with the same fault, or
succeed with values of which the second is the first one changed. -/
structure ReadAlike
    {Value : Type}
    (token token' : MarkerToken)
    (change : Value → Value)
    (read read' : Except Directive.ReadError Value × Draft) : Prop where
  outcome_eq : read'.1 = read.1.map change
  drafts : Alike token token' read.2 read'.2

namespace ReadAlike

variable
    {Value : Type}
    {change : Value → Value}
    {read read' : Except Directive.ReadError Value × Draft}

theorem of_ok
    (alike : ReadAlike token token' change read read')
    {value : Value}
    (read_eq : read = (.ok value, draft)) :
    ∃ draft',
      read' = (.ok (change value), draft') ∧
        Alike token token' draft draft' := by
  rw [read_eq] at alike
  exact ⟨read'.2, Prod.ext alike.outcome_eq rfl, alike.drafts⟩

theorem of_error
    (alike : ReadAlike token token' change read read')
    {error : Directive.ReadError}
    (read_eq : read = (.error error, draft)) :
    ∃ draft',
      read' = (.error error, draft') ∧ Alike token token' draft draft' := by
  rw [read_eq] at alike
  exact ⟨read'.2, Prod.ext alike.outcome_eq rfl, alike.drafts⟩

end ReadAlike

theorem Alike.initial
    {supply supply' : TokenSupply}
    (drawn : supply.draw.1 = token.text)
    (drawn' : supply'.draw.1 = token'.text) :
    Alike token token' { supply } { supply := supply' } where
  arguments_eq := rfl
  bindings_eq := rfl
  wildcards := .inl ⟨rfl, rfl, drawn, drawn'⟩

end Draft

namespace Directive

open AnnotatedSql.Draft

variable
    {token token' : MarkerToken}
    {draft draft' : Draft}
    {catalog : Catalog}
    {element : Element}

theorem readAlike_readArgument
    (alike : Alike token token' draft draft') :
    ReadAlike token token' (withToken token')
      (readArgument element draft) (readArgument element draft') := by
  have declared_eq :
      draft'.locals.get? .arguments = draft.locals.get? .arguments :=
    congrArg Slot.get? alike.arguments_eq
  simp only [readArgument, declared_eq]
  split
  · exact ⟨rfl, alike⟩
  · exact ⟨rfl, rfl, alike.bindings_eq, alike.wildcards⟩

theorem readAlike_readAssignments
    {assignments : Except DirectiveError (Dictionary Text)}
    (alike : Alike token token' draft draft') :
    ReadAlike token token' (withToken token')
      (readAssignments assignments draft)
      (readAssignments assignments draft') := by
  have bound_eq :
      draft'.locals.get? .bindings = draft.locals.get? .bindings :=
    congrArg Slot.get? alike.bindings_eq
  simp only [readAssignments, bound_eq]
  split
  · exact ⟨rfl, alike⟩
  · exact ⟨rfl, alike.arguments_eq, rfl, alike.wildcards⟩

/-- The wildcards are found, or made anew with the token that is drawn. -/
theorem exists_wildcardsWith_of_alike
    (alike : Alike token token' draft draft') :
    ∃ (resolution : Resolution) (after after' : Draft),
      resolution.token = token ∧
      draft.wildcardsWith TokenSupply.draw = (.ok resolution, after) ∧
      draft'.wildcardsWith TokenSupply.draw =
        (.ok (resolution.withToken token'), after') ∧
      after'.locals.arguments = after.locals.arguments ∧
      after'.locals.bindings = after.locals.bindings := by
  unfold Draft.wildcardsWith
  rcases alike.wildcards with
    ⟨absent, absent', drawn, drawn'⟩ | ⟨resolution, token_eq, found, found'⟩
  · rw [Draft.resolution?] at absent absent'
    simp only [absent, absent', drawn, drawn', MarkerToken.ofText?_text]
    exact ⟨_, _, _, rfl, rfl, rfl, alike.arguments_eq, alike.bindings_eq⟩
  · rw [Draft.resolution?] at found found'
    simp only [found, found']
    exact ⟨_, _, _, token_eq, rfl, rfl, alike.arguments_eq, alike.bindings_eq⟩

theorem readAlike_readWildcard
    (alike : Alike token token' draft draft') :
    ReadAlike token token' (withToken token')
      (readWildcard catalog element draft)
      (readWildcard catalog element draft') := by
  unfold readWildcard
  split
  · exact ⟨rfl, alike⟩
  · next table tableAlias _ =>
    rcases exists_wildcardsWith_of_alike alike with
      ⟨resolution, after, after', token_eq, made, made', arguments_eq,
        bindings_eq⟩
    rw [made, made']
    exact ⟨rfl, arguments_eq, bindings_eq,
      .inr ⟨(resolution.register table tableAlias).2, token_eq, rfl, rfl⟩⟩

theorem readAlike_readElement
    {kind : DirectiveKind}
    (alike : Alike token token' draft draft') :
    ReadAlike token token' (withToken token')
      (readElement catalog kind element draft)
      (readElement catalog kind element draft') := by
  cases kind with
  | argument => exact readAlike_readArgument alike
  | binding => exact readAlike_readAssignments alike
  | bindings => exact readAlike_readAssignments alike
  | replacement =>
      simp only [readElement]
      split <;> exact ⟨rfl, alike⟩
  | wildcard => exact readAlike_readWildcard alike
  | text => exact ⟨rfl, alike⟩

end Directive

namespace Compiler

open AnnotatedSql.Draft

variable
    {token token' : MarkerToken}
    {draft draft' : Draft}

theorem readAlike_readDirective
    (compiler : Compiler)
    (node : Node)
    (alike : Alike token token' draft draft') :
    ReadAlike token token' (Directive.withToken token')
      (compiler.readDirective node draft)
      (compiler.readDirective node draft') := by
  unfold readDirective
  split
  · exact ⟨rfl, alike⟩
  · next kind _ =>
    cases node with
    | text value => cases kind <;> exact ⟨rfl, alike⟩
    | element tag attributes children line =>
        exact Directive.readAlike_readElement alike

/-- A body is read alike under two tokens. -/
theorem readAlike_readBody
    (compiler : Compiler)
    (nodes : List Node)
    (alike : Alike token token' draft draft') :
    ReadAlike token token' (List.map (Directive.withToken token'))
      (compiler.readBody draft nodes) (compiler.readBody draft' nodes) := by
  induction nodes generalizing draft draft' with
  | nil => exact ⟨rfl, alike⟩
  | cons node nodes induction_hypothesis =>
      have first := readAlike_readDirective compiler node alike
      rcases read : compiler.readDirective node draft with
        ⟨error | directive, after⟩
      · rcases first.of_error read with ⟨after', read', alike_after⟩
        rw [readBody_of_error read, readBody_of_error read']
        exact ⟨rfl, alike_after⟩
      · rcases first.of_ok read with ⟨after', read', alike_after⟩
        have others := induction_hypothesis alike_after
        rw [readBody_of_ok read, readBody_of_ok read']
        refine ⟨?_, others.drafts⟩
        simp only [others.outcome_eq]
        cases (compiler.readBody after nodes).1 <;> rfl

end Compiler

/-! ## Queries under two tokens -/

/-- What a wildcard contributes to a query begins with a digit. -/
theorem Wildcard.exists_probe
    (quote : Text → Text)
    (token : MarkerToken)
    (wildcard : Wildcard) :
    ∃ rest : Text,
      wildcard.probe quote token = CodePoint.scalar '1' :: rest := by
  unfold probe
  simp only
  split_ifs <;> exact ⟨_, rfl⟩

/-- A token has no say in the first word of a query. -/
theorem Directive.firstWord_withToken
    (quote : Text → Text)
    (token : MarkerToken)
    (before : Text)
    (directives : List Directive) :
    Text.firstWord (before ++
        (directives.map (withToken token)).flatMap (queryFragment quote)) =
      Text.firstWord (before ++ directives.flatMap (queryFragment quote)) := by
  induction directives generalizing before with
  | nil => rfl
  | cons directive directives induction_hypothesis =>
      have same_fragment
          (same :
            (directive.withToken token).queryFragment quote =
              directive.queryFragment quote) :
          Text.firstWord (before ++
              ((directive :: directives).map (withToken token)).flatMap
                (queryFragment quote)) =
            Text.firstWord (before ++
              (directive :: directives).flatMap (queryFragment quote)) := by
        rw [List.map_cons, List.flatMap_cons, List.flatMap_cons, same,
          ← List.append_assoc, ← List.append_assoc]
        exact induction_hypothesis (before ++ directive.queryFragment quote)
      cases directive with
      | text value => exact same_fragment rfl
      | declaration => exact same_fragment rfl
      | replacement probed final => exact same_fragment rfl
      | wildcard given expanded =>
          rcases expanded.exists_probe quote token with ⟨rest, probe_eq⟩
          rcases expanded.exists_probe quote given with ⟨rest', probe_eq'⟩
          rw [List.map_cons, List.flatMap_cons, List.flatMap_cons, withToken,
            queryFragment, queryFragment, probe_eq, probe_eq',
            List.cons_append, List.cons_append,
            Text.firstWord_append_mark (by decide) (by decide),
            Text.firstWord_append_mark (by decide) (by decide)]

namespace Compiler

variable
    {compiler : Compiler}
    {directives : List Directive}
    {verb : Verb}

@[simp]
theorem text_withToken
    (compiler : Compiler)
    (token : MarkerToken)
    (directives : List Directive) :
    compiler.text (directives.map (Directive.withToken token)) =
      compiler.text directives := by
  rw [text, text, List.flatMap_map]
  congr 2
  funext directive
  cases directive <;> rfl

/-- The same verb is told by the queries under two tokens. -/
theorem verbOf_withToken
    (compiler : Compiler)
    (token : MarkerToken)
    (declared : Option Verb)
    (directives : List Directive)
    (verb : Verb) :
    verbOf declared
          (compiler.query (directives.map (Directive.withToken token))) =
        .ok verb ↔
      verbOf declared (compiler.query directives) = .ok verb := by
  have same :
      (compiler.query (directives.map (Directive.withToken token))).firstWord =
        (compiler.query directives).firstWord := by
    rw [query, query, Text.firstWord_trim, Text.firstWord_trim]
    exact Directive.firstWord_withToken compiler.quote token [] directives
  simp only [verbOf, Outcome.bind_eq_ok_iff, Verb.ofText_eq_ok_congr same]

end Compiler

/-! ## Result columns under two tokens -/

namespace Directive

/-- The result columns that directives leave if none of them fails. -/
def leftColumns
    (columns : List ResultColumn)
    (locals : StatementLocals)
    (directives : List Directive) :
    Except AttributionError (List ResultColumn) :=
  (processAll columns locals directives).1.map fun _ =>
    (processAll columns locals directives).2.1

variable
    {directives : List Directive}
    {locals : StatementLocals}

theorem leftColumns_eq_ok_iff
    {columns left : List ResultColumn} :
    leftColumns columns locals directives = .ok left ↔
      ∃ after,
        processAll columns locals directives = (.ok (), left, after) := by
  unfold leftColumns
  rcases processAll columns locals directives with ⟨error | _, columns', after⟩
  · simp [Except.map]
  · simp [Except.map]

theorem leftColumns_eq_error_iff
    {columns : List ResultColumn}
    {error : AttributionError} :
    leftColumns columns locals directives = .error error ↔
      (processAll columns locals directives).1 = .error error :=
  Outcome.map_eq_error_iff

theorem leftColumns_of_no_wildcards
    (noWildcards : wildcards directives = [])
    (columns : List ResultColumn) :
    leftColumns columns locals directives = .ok columns := by
  rw [leftColumns, processAll_of_no_wildcards noWildcards]
  rfl

theorem leftColumns_of_wildcards
    {resolution : Resolution}
    (found : locals.get? .wildcards = some resolution)
    (unprocessed : resolution.processed = false)
    (someWildcard : wildcards directives ≠ [])
    (columns : List ResultColumn) :
    leftColumns columns locals directives = resolution.attributed columns := by
  cases attributed_eq : resolution.attributed columns with
  | ok attributed =>
      rcases processAll_of_wildcards found unprocessed someWildcard
        attributed_eq with ⟨after, processed⟩
      rw [leftColumns, processed]
      rfl
  | error error =>
      rw [leftColumns, processAll_outcome found unprocessed someWildcard,
        attributed_eq]
      rfl

/-- Result columns are processed without touching arguments and bindings. -/
theorem processColumns_frame
    (directive : Directive)
    (columns : List ResultColumn)
    (locals : StatementLocals) :
    (directive.processColumns columns locals).2.2.arguments =
        locals.arguments ∧
      (directive.processColumns columns locals).2.2.bindings =
        locals.bindings := by
  unfold processColumns
  split <;> exact ⟨rfl, rfl⟩

theorem processAll_frame
    {columns left : List ResultColumn}
    {outcome : Except AttributionError Unit}
    {after : StatementLocals}
    (processed :
      processAll columns locals directives = (outcome, left, after)) :
    after.arguments = locals.arguments ∧ after.bindings = locals.bindings := by
  induction directives generalizing columns locals with
  | nil =>
      cases processed
      exact ⟨rfl, rfl⟩
  | cons directive directives induction_hypothesis =>
      have first := processColumns_frame directive columns locals
      rw [processAll] at processed
      split at processed
      · next columns' middle called =>
        rw [called] at first
        rcases induction_hypothesis processed with
          ⟨arguments_eq, bindings_eq⟩
        exact ⟨arguments_eq.trans first.1, bindings_eq.trans first.2⟩
      · next called =>
        rw [called] at first
        cases processed
        exact first

@[simp]
theorem wildcards_withToken
    (token : MarkerToken)
    (directives : List Directive) :
    wildcards (directives.map (withToken token)) =
      (wildcards directives).map fun pair => (token, pair.2) := by
  rw [wildcards, wildcards, List.filterMap_map, List.map_filterMap]
  congr 1
  funext directive
  cases directive <;> rfl

end Directive

namespace Compiler

variable
    {compiler : Compiler}
    {token token' : MarkerToken}
    {supply : TokenSupply}
    {nodes : List Node}
    {directives : List Directive}
    {draft draft' : Draft}
    {admitted : Marker → Prop}

/-- What is left of a token when result columns have been processed: the
names of sentinels that the statement does not have. -/
def Survives
    (compiler : Compiler)
    (nodes : List Node)
    (admitted : Marker → Prop)
    (marker : Marker) : Prop :=
  admitted marker ∧
    (compiler.wildcardElements nodes = [] ∨ marker.index < 0)

theorem wildcardElements_eq_nil
    (read : compiler.readBody { supply } nodes = (.ok directives, draft))
    (noWildcards : Directive.wildcards directives = []) :
    compiler.wildcardElements nodes = [] := by
  have described := (registers_of_readBody read).2
  rw [noWildcards] at described
  exact List.map_eq_nil_iff.1 described.symm

/-- Directives process corresponding columns alike. -/
theorem agree_leftColumns
    (read : compiler.readBody { supply } nodes = (.ok directives, draft))
    (alike : Draft.Alike token token' draft draft')
    {columns columns' : List ResultColumn}
    (correspond :
      List.Forall₂ (ColumnsCorrespond token token' admitted) columns
        columns') :
    Outcome.Agree
      (List.Forall₂
        (ColumnsCorrespond token token' (compiler.Survives nodes admitted)))
      (Directive.leftColumns columns draft.locals directives)
      (Directive.leftColumns columns' draft'.locals
        (directives.map (Directive.withToken token'))) := by
  have noWildcards_iff :
      Directive.wildcards (directives.map (Directive.withToken token')) = [] ↔
        Directive.wildcards directives = [] := by
    rw [Directive.wildcards_withToken, List.map_eq_nil_iff]
  by_cases noWildcards : Directive.wildcards directives = []
  · rw [Directive.leftColumns_of_no_wildcards noWildcards,
      Directive.leftColumns_of_no_wildcards (noWildcards_iff.2 noWildcards)]
    have noElements := wildcardElements_eq_nil read noWildcards
    exact .succeeded (correspond.imp fun _ _ same =>
      same.mono fun _ admits => ⟨admits, .inl noElements⟩)
  · rcases resolution_of_readBody read noWildcards with
      ⟨resolution, found, registered⟩
    rcases alike.wildcards with
      ⟨absent, _⟩ | ⟨resolution', token_eq, present, found'⟩
    · rw [found] at absent
      cases absent
    · rw [found, Option.some.injEq] at present
      subst present token_eq
      rw [Directive.leftColumns_of_wildcards found registered.unprocessed
          noWildcards,
        Directive.leftColumns_of_wildcards found' registered.unprocessed
          (noWildcards_iff.not.2 noWildcards)]
      exact (Resolution.agree_attributeFrom correspond none).mono
        fun _ _ left => left.imp fun _ _ same =>
          same.mono fun _ negative => ⟨negative.1, .inr negative.2⟩

end Compiler

/-! ## Compilations under two tokens -/

/-- Replies to the queries of one statement under two tokens: result columns
of the same types, which differ by the names of sentinels only, or one
failure. -/
inductive ProbeReply.Correspond
    (token token' : MarkerToken)
    (admitted : Marker → Prop) :
    ProbeReply → ProbeReply → Prop where
  | columns
      {descriptors descriptors' : List ColumnDescriptor}
      (correspond :
        List.Forall₂
          (fun descriptor descriptor' =>
            token.Corresponds token' admitted descriptor.name
                descriptor'.name ∧
              descriptor'.type = descriptor.type)
          descriptors descriptors') :
      Correspond token token' admitted (.columns descriptors)
        (.columns descriptors')
  | failure (message : Text) :
      Correspond token token' admitted (.failure message) (.failure message)

namespace ProbeReply.Correspond

variable
    {token token' : MarkerToken}
    {admitted : Marker → Prop}
    {reply : ProbeReply}

theorem exists_columns
    {descriptors : List ColumnDescriptor}
    (replies :
      ProbeReply.Correspond token token' admitted (.columns descriptors)
        reply) :
    ∃ descriptors',
      reply = .columns descriptors' ∧
        List.Forall₂ (ColumnsCorrespond token token' admitted)
          (descriptors.map .ofDescriptor)
          (descriptors'.map .ofDescriptor) := by
  cases replies with
  | columns correspond =>
      refine ⟨_, rfl, ?_⟩
      rw [List.forall₂_map_left_iff, List.forall₂_map_right_iff]
      exact correspond.imp fun _ _ same => ⟨same.1, same.2, rfl⟩

theorem eq_failure
    {message : Text}
    (replies :
      ProbeReply.Correspond token token' admitted (.failure message) reply) :
    reply = .failure message := by
  cases replies with
  | failure => rfl

end ProbeReply.Correspond

/-- Statements that differ by their queries, and by the names of sentinels
among their result columns. -/
structure Statement.Alike
    (token token' : MarkerToken)
    (admitted : Marker → Prop)
    (statement statement' : Statement) : Prop where
  verb_eq : statement'.verb = statement.verb
  text_eq : statement'.text = statement.text
  arguments_eq : statement'.locals.arguments = statement.locals.arguments
  bindings_eq : statement'.locals.bindings = statement.locals.bindings
  columns :
    List.Forall₂ (ColumnsCorrespond token token' admitted)
      statement.columns statement'.columns

namespace Compiler

variable
    {compiler : Compiler}
    {definition : StatementDefinition}
    {token token' : MarkerToken}
    {session session' : Session}
    {admitted : Marker → Prop}

/-- Whatever course the one compilation takes, the other one takes one that
agrees with it. -/
theorem Course.exists_agree
    {supply supply' : TokenSupply}
    {reply reply' : ProbeReply}
    {outcome : Except CompileError Statement}
    {left : TokenSupply}
    {executed : Option Text}
    (course :
      Course compiler definition supply reply outcome left executed)
    (drawn : supply.draw.1 = token.text)
    (drawn' : supply'.draw.1 = token'.text)
    (replies : ProbeReply.Correspond token token' admitted reply reply') :
    ∃ outcome' left' executed',
      Course compiler definition supply' reply' outcome' left' executed' ∧
        Outcome.Agree
          (Statement.Alike token token'
            (compiler.Survives definition.body admitted))
          outcome outcome' := by
  have reads :=
    readAlike_readBody compiler definition.body
      (Draft.Alike.initial drawn drawn')
  cases course with
  | unread read =>
      rcases reads.of_error read with ⟨draft', read', _⟩
      exact ⟨_, _, _, .unread read', .failed _ _⟩
  | @wrongVerb directives draft error read verb_eq =>
      rcases reads.of_ok read with ⟨draft', read', _⟩
      cases verb_eq' :
          verbOf definition.declared
            (compiler.query
              (directives.map (Directive.withToken token'))) with
      | error error' => exact ⟨_, _, _, .wrongVerb read' verb_eq', .failed _ _⟩
      | ok verb =>
          rw [verbOf_withToken, verb_eq] at verb_eq'
          cases verb_eq'
  | @unprobed directives draft verb read verb_eq notSelect =>
      rcases reads.of_ok read with ⟨draft', read', alike⟩
      have verb_eq' := (verbOf_withToken compiler token' _ _ _).2 verb_eq
      refine ⟨_, _, _, .unprobed read' verb_eq' notSelect, .succeeded ?_⟩
      exact ⟨rfl, text_withToken compiler token' directives,
        alike.arguments_eq, alike.bindings_eq, .nil⟩
  | @refused directives draft message read verb_eq reply_eq =>
      rcases reads.of_ok read with ⟨draft', read', _⟩
      have verb_eq' := (verbOf_withToken compiler token' _ _ _).2 verb_eq
      rw [reply_eq] at replies
      exact ⟨_, _, _, .refused read' verb_eq' replies.eq_failure, .failed _ _⟩
  | @unattributed directives draft descriptors error read verb_eq reply_eq
      processed =>
      rcases reads.of_ok read with ⟨draft', read', alike⟩
      have verb_eq' := (verbOf_withToken compiler token' _ _ _).2 verb_eq
      rw [reply_eq] at replies
      rcases replies.exists_columns with ⟨descriptors', reply_eq', correspond⟩
      have agree := agree_leftColumns read alike correspond
      rw [Directive.leftColumns_eq_error_iff.2 processed] at agree
      rcases agree.error_left with ⟨error', left_eq'⟩
      have processed' := Directive.leftColumns_eq_error_iff.1 left_eq'
      exact ⟨_, _, _, .unattributed read' verb_eq' reply_eq' processed',
        .failed _ _⟩
  | @attributed directives draft descriptors columns locals read verb_eq
      reply_eq processed =>
      rcases reads.of_ok read with ⟨draft', read', alike⟩
      have verb_eq' := (verbOf_withToken compiler token' _ _ _).2 verb_eq
      rw [reply_eq] at replies
      rcases replies.exists_columns with ⟨descriptors', reply_eq', correspond⟩
      have agree := agree_leftColumns read alike correspond
      rw [Directive.leftColumns_eq_ok_iff.2 ⟨locals, processed⟩] at agree
      rcases agree.ok_left with ⟨columns', left_eq', left⟩
      rcases Directive.leftColumns_eq_ok_iff.1 left_eq' with
        ⟨locals', processed'⟩
      have frame := Directive.processAll_frame processed
      have frame' := Directive.processAll_frame processed'
      refine ⟨_, _, _, .attributed read' verb_eq' reply_eq' processed',
        .succeeded ?_⟩
      exact ⟨rfl, text_withToken compiler token' directives,
        frame'.1.trans (alike.arguments_eq.trans frame.1.symm),
        frame'.2.trans (alike.bindings_eq.trans frame.2.symm), left⟩

theorem agree_compile
    (compiler : Compiler)
    (definition : StatementDefinition)
    (drawn : session.supply.draw.1 = token.text)
    (drawn' : session'.supply.draw.1 = token'.text)
    (replies :
      ProbeReply.Correspond token token' admitted session.reply
        session'.reply) :
    Outcome.Agree
      (Statement.Alike token token'
        (compiler.Survives definition.body admitted))
      (compiler.compile definition session).1
      (compiler.compile definition session').1 := by
  rcases course_of_compile compiler definition session with
    ⟨left, executed, course, _⟩
  rcases course.exists_agree drawn drawn' replies with
    ⟨outcome', left', executed', course', agree⟩
  rw [(compile_of_course course').1]
  exact agree

/--
Two compilations of a definition with different tokens, and with replies that
differ by the names of sentinels only, both fail or both succeed.  On success
they have the same verb, text, arguments and bindings, and result columns of
the same types and sources.  The names of result columns are the same too,
except for sentinels that are none of the statement: a statement without
wildcards keeps them all, and every statement those with negative numbers.
Where the replies have no such names, the result columns are the same, and
none of them is a sentinel.
-/
theorem compile_independent_of_token
    (compiler : Compiler)
    (definition : StatementDefinition)
    (drawn : session.supply.draw.1 = token.text)
    (drawn' : session'.supply.draw.1 = token'.text)
    (replies :
      ProbeReply.Correspond token token' admitted session.reply
        session'.reply) :
    ((∃ statement, (compiler.compile definition session).1 = .ok statement) ↔
        ∃ statement', (compiler.compile definition session').1 =
          .ok statement') ∧
      ∀ statement statement' : Statement,
        (compiler.compile definition session).1 = .ok statement →
        (compiler.compile definition session').1 = .ok statement' →
          statement'.verb = statement.verb ∧
          statement'.text = statement.text ∧
          statement'.locals.arguments = statement.locals.arguments ∧
          statement'.locals.bindings = statement.locals.bindings ∧
          List.Forall₂
            (ColumnsCorrespond token token'
              (compiler.Survives definition.body admitted))
            statement.columns statement'.columns ∧
          ((∀ marker, ¬ compiler.Survives definition.body admitted marker) →
            statement'.columns = statement.columns ∧
            ∀ column ∈ statement.columns,
              token.Ordinary column.name ∧ token'.Ordinary column.name) := by
  have agree := agree_compile compiler definition drawn drawn' replies
  refine ⟨agree.exists_ok_iff, ?_⟩
  intro statement statement' compiled compiled'
  rw [compiled, compiled'] at agree
  cases agree with
  | succeeded alike =>
      exact ⟨alike.verb_eq, alike.text_eq, alike.arguments_eq,
        alike.bindings_eq, alike.columns,
        fun nothing => eq_of_columnsCorrespond nothing alike.columns⟩

def firstToken : MarkerToken := ⟨"wc00", by decide⟩

def secondToken : MarkerToken := ⟨"wc01", by decide⟩

/-- Names with one ending behind the two tokens correspond if they are those of
one marker. -/
theorem corresponds_of_ending
    {admitted : Marker → Prop}
    (marker : Marker)
    (ending : Text)
    (admits : admitted marker)
    (encoded :
      firstToken.encode marker = "wc" ++ Text.ofString "00" ++ ending)
    (encoded' :
      secondToken.encode marker = "wc" ++ Text.ofString "01" ++ ending) :
    MarkerToken.Corresponds firstToken secondToken admitted
      ("wc" ++ Text.ofString "00" ++ ending)
      ("wc" ++ Text.ofString "01" ++ ending) :=
  .of_encode_eq admits encoded encoded'

/-- A session that replies to some wildcards of the self-join under the token
that it draws. -/
def selfJoinSessionUnder (digits : Text) : Session where
  supply := ⟨digits, []⟩
  replies :=
    [.columns
      [⟨"total", .unknown⟩, ⟨"wc" ++ digits ++ "_2_b", .unknown⟩,
        ⟨"id", .unknown⟩, ⟨"name", .unknown⟩,
        ⟨"wc" ++ digits ++ "_2_e", .unknown⟩,
        ⟨"wc" ++ digits ++ "_1_b", .unknown⟩,
        ⟨"wc" ++ digits ++ "_1_e", .unknown⟩]]

theorem compile_independent_of_token_selfJoin :
    ∃ statement statement' : Statement,
      (selfJoinCompiler.compile selfJoinDefinition
          (selfJoinSessionUnder "00")).1 = .ok statement ∧
        (selfJoinCompiler.compile selfJoinDefinition
          (selfJoinSessionUnder "01")).1 = .ok statement' ∧
        statement'.text = statement.text ∧
        statement'.columns = statement.columns ∧
        statement.columns.length = 3 := by
  have replies :
      ProbeReply.Correspond firstToken secondToken
        (fun marker => 0 ≤ marker.index)
        (selfJoinSessionUnder "00").reply (selfJoinSessionUnder "01").reply :=
    .columns <|
      .cons ⟨.ordinary (by decide) (by decide), rfl⟩ <|
      .cons ⟨corresponds_of_ending ⟨2, true⟩ "_2_b" (by decide)
        (by decide +kernel) (by decide +kernel), rfl⟩ <|
      .cons ⟨.ordinary (by decide) (by decide), rfl⟩ <|
      .cons ⟨.ordinary (by decide) (by decide), rfl⟩ <|
      .cons ⟨corresponds_of_ending ⟨2, false⟩ "_2_e" (by decide)
        (by decide +kernel) (by decide +kernel), rfl⟩ <|
      .cons ⟨corresponds_of_ending ⟨1, true⟩ "_1_b" (by decide)
        (by decide +kernel) (by decide +kernel), rfl⟩ <|
      .cons ⟨corresponds_of_ending ⟨1, false⟩ "_1_e" (by decide)
        (by decide +kernel) (by decide +kernel), rfl⟩ .nil
  have independent :=
    compile_independent_of_token selfJoinCompiler selfJoinDefinition rfl rfl
      replies
  have nothing (marker : Marker) :
      ¬ selfJoinCompiler.Survives selfJoinDefinition.body
        (fun marker => 0 ≤ marker.index) marker := by
    rintro ⟨natural, noWildcards | negative⟩
    · cases noWildcards
    · omega
  have read :
      selfJoinCompiler.readBody { supply := ⟨"00", []⟩ }
          selfJoinDefinition.body = (.ok _, _) :=
    rfl
  have verb_eq :
      verbOf (some .select)
          (selfJoinCompiler.query
            (selfJoinDirectives.map (Directive.withToken firstToken))) =
        .ok .select := by
    cbv
  have compiled :=
    (@compile_of_course selfJoinCompiler selfJoinDefinition
      (selfJoinSessionUnder "00") _ _ _
      (.attributed read verb_eq rfl rfl)).1
  rcases independent.1.1 ⟨_, compiled⟩ with ⟨statement', compiled'⟩
  rcases independent.2 _ statement' compiled compiled' with
    ⟨_, text_eq, _, _, _, same⟩
  exact ⟨_, statement', compiled, compiled', text_eq, (same nothing).1, rfl⟩

/-- A session whose reply has one column, of a name that begins with the token
that is drawn. -/
def soleSession (digits ending : Text) : Session where
  supply := ⟨digits, []⟩
  replies := [.columns [⟨"wc" ++ digits ++ ending, .unknown⟩]]

/-- A statement without wildcards. -/
def plainDefinition : StatementDefinition where
  name := "one"
  body := [.text "SELECT 1"]
  declared := some .select

/-- A statement with a wildcard. -/
def starDefinition : StatementDefinition where
  name := "users"
  body :=
    [.text "SELECT ", .element "wildcard" [("table", "user")] [] 1,
      .text " FROM user"]
  declared := some .select

/-- Directives that keep the only column of a session. -/
theorem exists_compile_soleSession
    {definition : StatementDefinition}
    {digits ending : Text}
    {directives : List Directive}
    {draft : Draft}
    (read :
      selfJoinCompiler.readBody { supply := ⟨digits, []⟩ } definition.body =
        (.ok directives, draft))
    (isSelect : Verb.ofText (selfJoinCompiler.query directives) = .ok .select)
    (declared : definition.declared = some .select)
    {after : StatementLocals}
    (kept :
      Directive.processAll [⟨"wc" ++ digits ++ ending, .unknown, none⟩]
          draft.locals directives =
        (.ok (), [⟨"wc" ++ digits ++ ending, .unknown, none⟩], after)) :
    ∃ statement : Statement,
      (selfJoinCompiler.compile definition (soleSession digits ending)).1 =
          .ok statement ∧
        statement.columns = [⟨"wc" ++ digits ++ ending, .unknown, none⟩] := by
  rcases @compile_of_processAll selfJoinCompiler directives
      [⟨"wc" ++ digits ++ ending, .unknown⟩] _ definition
      (soleSession digits ending) draft read isSelect (.inr declared) [] rfl
      after kept with
    ⟨statement, next, compiled, columns_eq⟩
  exact ⟨statement, congrArg Prod.fst compiled, columns_eq⟩

/--
The names of sentinels that a statement does not have are kept under either
token: of a marker that has a wildcard's number in a statement without
wildcards, and of a marker that has a negative number in any statement.
-/
theorem columns_ne_of_survives :
    (∀ ending,
      (soleSession "00" ending).supply.draw.1 = firstToken.text ∧
        (soleSession "01" ending).supply.draw.1 = secondToken.text) ∧
      (ProbeReply.Correspond firstToken secondToken (fun _ => True)
        (soleSession "00" "_0_b").reply (soleSession "01" "_0_b").reply ∧
      ∃ statement statement' : Statement,
        (selfJoinCompiler.compile plainDefinition
            (soleSession "00" "_0_b")).1 = .ok statement ∧
          (selfJoinCompiler.compile plainDefinition
            (soleSession "01" "_0_b")).1 = .ok statement' ∧
          statement'.columns ≠ statement.columns) ∧
      ProbeReply.Correspond firstToken secondToken (fun _ => True)
        (soleSession "00" "_-1_b").reply (soleSession "01" "_-1_b").reply ∧
      ∃ statement statement' : Statement,
        (selfJoinCompiler.compile starDefinition
            (soleSession "00" "_-1_b")).1 = .ok statement ∧
          (selfJoinCompiler.compile starDefinition
            (soleSession "01" "_-1_b")).1 = .ok statement' ∧
          statement'.columns ≠ statement.columns := by
  have corresponds
      (marker : Marker)
      (ending : Text)
      (encoded :
        firstToken.encode marker = "wc" ++ Text.ofString "00" ++ ending)
      (encoded' :
        secondToken.encode marker = "wc" ++ Text.ofString "01" ++ ending) :
      ProbeReply.Correspond firstToken secondToken (fun _ => True)
        (soleSession "00" ending).reply (soleSession "01" ending).reply :=
    .columns
      (.cons ⟨corresponds_of_ending marker ending trivial encoded encoded',
        rfl⟩ .nil)
  refine ⟨fun _ => ⟨rfl, rfl⟩,
    ⟨corresponds ⟨0, true⟩ _ (by decide +kernel) (by decide +kernel), ?_⟩,
    corresponds ⟨-1, true⟩ _ (by decide +kernel) (by decide +kernel), ?_⟩
  · rcases @exists_compile_soleSession plainDefinition "00" "_0_b" _ _ rfl
      (by cbv) rfl _ rfl with ⟨statement, compiled, columns_eq⟩
    rcases @exists_compile_soleSession plainDefinition "01" "_0_b" _ _ rfl
      (by cbv) rfl _ rfl with ⟨statement', compiled', columns_eq'⟩
    refine ⟨statement, statement', compiled, compiled', ?_⟩
    rw [columns_eq, columns_eq']
    decide
  · rcases @exists_compile_soleSession starDefinition "00" "_-1_b" _ _ rfl
      (by cbv) rfl _ rfl with ⟨statement, compiled, columns_eq⟩
    rcases @exists_compile_soleSession starDefinition "01" "_-1_b" _ _ rfl
      (by cbv) rfl _ rfl with ⟨statement', compiled', columns_eq'⟩
    refine ⟨statement, statement', compiled, compiled', ?_⟩
    rw [columns_eq, columns_eq']
    decide

end Compiler

end AnnotatedSql
