import AnnotatedSql.Proofs.Compiler.ProbeReply

/-!
# The course of a compilation

Compiling a statement takes one of six courses: its body is not read, its
query has the wrong verb, its query is not a SELECT and is not executed, the
database refuses the query, the result columns are not attributed, or they
are.  `Compiler.Course` lists them with the premises of each.  A course is
told by the definition, the supply of tokens and the reply that is next; of
the session nothing else has a say in it.

A query is executed on the last three courses only.
-/

namespace AnnotatedSql

open AnnotatedSql.Schema AnnotatedSql.Wildcard

namespace Session

/-- The reply to the next probe query. -/
def reply (session : Session) : ProbeReply :=
  session.replies.headD (.columns [])

/-- The session behind a compilation that leaves a supply and executes a
query, or none.  What was reported is left open. -/
structure Advances
    (session : Session)
    (left : TokenSupply)
    (executed : Option Text)
    (next : Session) : Prop where
  parser_eq : next.parser = session.parser
  supply_eq : next.supply = left
  queries_eq : next.queries = session.queries ++ executed.toList
  replies_eq : next.replies = session.replies.drop executed.toList.length

namespace Advances

variable
    {session next : Session}
    {left : TokenSupply}
    {executed : Option Text}

/-- Nothing is executed when a supply is replaced. -/
theorem supply
    (session : Session)
    (left : TokenSupply) :
    session.Advances left none { session with supply := left } :=
  ⟨rfl, rfl, (List.append_nil _).symm, rfl⟩

/-- The supply before does not matter for what is left behind. -/
theorem of_supply
    {supply : TokenSupply}
    (advances : { session with supply }.Advances left executed next) :
    session.Advances left executed next :=
  ⟨advances.parser_eq, advances.supply_eq, advances.queries_eq,
    advances.replies_eq⟩

/-- What is reported does not matter. -/
theorem report
    (advances : session.Advances left executed next)
    (event : Event) :
    session.Advances left executed (next.report event) :=
  ⟨advances.parser_eq, advances.supply_eq, advances.queries_eq,
    advances.replies_eq⟩

end Advances

end Session

namespace Compiler

/-- The outcome of compiling a definition with a supply of tokens and a reply
to the probe query, the supply that is left, and the query that is executed. -/
inductive Course
    (compiler : Compiler)
    (definition : StatementDefinition)
    (supply : TokenSupply)
    (reply : ProbeReply) :
    Except CompileError Statement → TokenSupply → Option Text → Prop where
  | unread
      {error : Directive.ReadError}
      {draft : Draft}
      (read :
        compiler.readBody { supply } definition.body = (.error error, draft)) :
      Course compiler definition supply reply
        (.error ⟨.ofReadError error, definition.name⟩) draft.supply none
  | wrongVerb
      {directives : List Directive}
      {draft : Draft}
      {error : StatementError}
      (read :
        compiler.readBody { supply } definition.body = (.ok directives, draft))
      (verb_eq :
        verbOf definition.declared (compiler.query directives) = .error error) :
      Course compiler definition supply reply
        (.error ⟨.statement error, definition.name⟩) draft.supply none
  | unprobed
      {directives : List Directive}
      {draft : Draft}
      {verb : Verb}
      (read :
        compiler.readBody { supply } definition.body = (.ok directives, draft))
      (verb_eq :
        verbOf definition.declared (compiler.query directives) = .ok verb)
      (notSelect : verb ≠ .select) :
      Course compiler definition supply reply
        (.ok ⟨definition.name, verb, compiler.text directives,
          compiler.query directives, [], draft.locals⟩)
        draft.supply none
  | refused
      {directives : List Directive}
      {draft : Draft}
      {message : Text}
      (read :
        compiler.readBody { supply } definition.body = (.ok directives, draft))
      (verb_eq :
        verbOf definition.declared (compiler.query directives) = .ok .select)
      (reply_eq : reply = .failure message) :
      Course compiler definition supply reply
        (.error ⟨.database message, definition.name⟩)
        draft.supply (some (compiler.query directives))
  | unattributed
      {directives : List Directive}
      {draft : Draft}
      {descriptors : List ColumnDescriptor}
      {error : AttributionError}
      (read :
        compiler.readBody { supply } definition.body = (.ok directives, draft))
      (verb_eq :
        verbOf definition.declared (compiler.query directives) = .ok .select)
      (reply_eq : reply = .columns descriptors)
      (processed :
        (Directive.processAll (descriptors.map .ofDescriptor) draft.locals
          directives).1 = .error error) :
      Course compiler definition supply reply
        (.error ⟨.ofAttributionError error, definition.name⟩)
        draft.supply (some (compiler.query directives))
  | attributed
      {directives : List Directive}
      {draft : Draft}
      {descriptors : List ColumnDescriptor}
      {columns : List ResultColumn}
      {locals : StatementLocals}
      (read :
        compiler.readBody { supply } definition.body = (.ok directives, draft))
      (verb_eq :
        verbOf definition.declared (compiler.query directives) = .ok .select)
      (reply_eq : reply = .columns descriptors)
      (processed :
        Directive.processAll (descriptors.map .ofDescriptor) draft.locals
          directives = (.ok (), columns, locals)) :
      Course compiler definition supply reply
        (.ok ⟨definition.name, .select, compiler.text directives,
          compiler.query directives, columns, locals⟩)
        draft.supply (some (compiler.query directives))

theorem probe_eq (session : Session) (query : Text) :
    session.probe query =
      (match session.reply with
        | .columns descriptors => .ok descriptors
        | .failure message => .error message,
      { session with
        queries := session.queries ++ [query]
        replies := session.replies.tail }) := by
  unfold Session.probe Session.reply
  rcases session.replies with _ | ⟨_ | _, _⟩ <;> rfl

section

variable
    {directives : List Directive}
    {locals : StatementLocals}
    {session : Session}

/-- A probe query is executed once, whatever its reply. -/
theorem advances_resultColumns
    (name query : Text)
    (directives : List Directive)
    (locals : StatementLocals)
    (session : Session) :
    session.Advances session.supply (some query)
      (resultColumns name query directives locals session).2 := by
  unfold resultColumns
  rw [probe_eq]
  split
  · next asked =>
    cases (Prod.mk.inj asked).2
    exact ⟨rfl, rfl, rfl, List.drop_one.symm⟩
  · next asked =>
    cases (Prod.mk.inj asked).2
    simp only
    split
    · exact ⟨rfl, rfl, rfl, List.drop_one.symm⟩
    · split_ifs <;> exact ⟨rfl, rfl, rfl, List.drop_one.symm⟩

theorem resultColumns_of_failure
    {message : Text}
    (reply_eq : session.reply = .failure message)
    (name query : Text)
    (directives : List Directive)
    (locals : StatementLocals) :
    (resultColumns name query directives locals session).1 =
      .error (.database message) := by
  have asked : (session.report (.probing name query)).reply = _ := reply_eq
  rw [resultColumns, probe_eq, asked]

theorem resultColumns_of_columns
    {descriptors : List ColumnDescriptor}
    {outcome : Except AttributionError Unit}
    {columns : List ResultColumn}
    {after : StatementLocals}
    (reply_eq : session.reply = .columns descriptors)
    (processed :
      Directive.processAll (descriptors.map .ofDescriptor) locals directives =
        (outcome, columns, after))
    (name query : Text) :
    (resultColumns name query directives locals session).1 =
      (outcome.mapError .ofAttributionError).map fun _ => (columns, after) := by
  have asked : (session.report (.probing name query)).reply = _ := reply_eq
  have processed' :
      Directive.processAll
          (descriptors.map fun descriptor =>
            ({ name := descriptor.name, type := descriptor.type } :
              ResultColumn)) locals directives = (outcome, columns, after) :=
    processed
  rw [resultColumns, probe_eq, asked]
  simp only
  rw [processed']
  cases outcome <;> rfl

end

variable
    {compiler : Compiler}
    {definition : StatementDefinition}
    {session : Session}

theorem compile_of_unread
    {error : Directive.ReadError}
    {draft : Draft}
    (read :
      compiler.readBody { supply := session.supply } definition.body =
        (.error error, draft)) :
    compiler.compile definition session =
      (.error ⟨.ofReadError error, definition.name⟩,
        { session with supply := draft.supply }) := by
  rw [compile, read]

theorem compile_of_wrongVerb
    {directives : List Directive}
    {draft : Draft}
    {error : StatementError}
    (read :
      compiler.readBody { supply := session.supply } definition.body =
        (.ok directives, draft))
    (verb_eq :
      verbOf definition.declared (compiler.query directives) = .error error) :
    compiler.compile definition session =
      (.error ⟨.statement error, definition.name⟩,
        { session with supply := draft.supply }) := by
  simp only [compile, read, assemble, verb_eq]

/-- A statement with a verb is compiled as its result columns are. -/
theorem compile_of_verb
    {directives : List Directive}
    {draft : Draft}
    {verb : Verb}
    (read :
      compiler.readBody { supply := session.supply } definition.body =
        (.ok directives, draft))
    (verb_eq :
      verbOf definition.declared (compiler.query directives) = .ok verb)
    {outcome : Except CompileFault (List ResultColumn × StatementLocals)}
    {left : TokenSupply}
    {executed : Option Text}
    {next : Session}
    (loaded :
      columnsOf verb definition.name (compiler.query directives) directives
          draft.locals { session with supply := draft.supply } =
        (outcome, next))
    (advances : session.Advances left executed next) :
    (compiler.compile definition session).1 =
        ((outcome.mapError (⟨·, definition.name⟩)).map fun columns =>
          ⟨definition.name, verb, compiler.text directives,
            compiler.query directives, columns.1, columns.2⟩) ∧
      session.Advances left executed
        (compiler.compile definition session).2 := by
  simp only [compile, read, assemble, verb_eq, loaded]
  cases outcome with
  | error fault => exact ⟨rfl, advances⟩
  | ok columns => exact ⟨rfl, advances.report _⟩

/-- A compilation takes every course whose premises hold. -/
theorem compile_of_course
    {outcome : Except CompileError Statement}
    {left : TokenSupply}
    {executed : Option Text}
    (course :
      Course compiler definition session.supply session.reply outcome left
        executed) :
    (compiler.compile definition session).1 = outcome ∧
      session.Advances left executed
        (compiler.compile definition session).2 := by
  have probed (draft : Draft) (directives : List Directive) :
      session.Advances draft.supply (some (compiler.query directives))
        (columnsOf .select definition.name (compiler.query directives)
          directives draft.locals { session with supply := draft.supply }).2 :=
    .of_supply (advances_resultColumns definition.name
      (compiler.query directives) directives draft.locals
      { session with supply := draft.supply })
  cases course with
  | unread read =>
      rw [compile_of_unread read]
      exact ⟨rfl, .supply session _⟩
  | wrongVerb read verb_eq =>
      rw [compile_of_wrongVerb read verb_eq]
      exact ⟨rfl, .supply session _⟩
  | @unprobed directives draft verb read verb_eq notSelect =>
      have loaded :
          columnsOf verb definition.name (compiler.query directives) directives
              draft.locals { session with supply := draft.supply } =
            (.ok ([], draft.locals),
              { session with supply := draft.supply }) := by
        cases verb with
        | select => exact absurd rfl notSelect
        | _ => rfl
      exact compile_of_verb read verb_eq loaded (.supply session _)
  | @refused directives draft message read verb_eq reply_eq =>
      have refused := @resultColumns_of_failure
        { session with supply := draft.supply } message reply_eq
        definition.name (compiler.query directives) directives draft.locals
      exact compile_of_verb read verb_eq (Prod.ext refused rfl)
        (probed draft directives)
  | @unattributed directives draft descriptors error read verb_eq reply_eq
      processed =>
      have refused := @resultColumns_of_columns directives draft.locals
        { session with supply := draft.supply } descriptors (.error error) _ _
        reply_eq (Prod.ext processed rfl) definition.name
        (compiler.query directives)
      exact compile_of_verb read verb_eq (Prod.ext refused rfl)
        (probed draft directives)
  | @attributed directives draft descriptors columns locals read verb_eq
      reply_eq processed =>
      have accepted := @resultColumns_of_columns directives draft.locals
        { session with supply := draft.supply } descriptors (.ok ()) columns
        locals reply_eq processed definition.name (compiler.query directives)
      exact compile_of_verb read verb_eq (Prod.ext accepted rfl)
        (probed draft directives)

/-- There is a course for every definition, supply and reply. -/
theorem exists_course
    (compiler : Compiler)
    (definition : StatementDefinition)
    (supply : TokenSupply)
    (reply : ProbeReply) :
    ∃ outcome left executed,
      Course compiler definition supply reply outcome left executed := by
  rcases read : compiler.readBody { supply } definition.body with
    ⟨error | directives, draft⟩
  · exact ⟨_, _, _, .unread read⟩
  cases verb_eq : verbOf definition.declared (compiler.query directives) with
  | error error => exact ⟨_, _, _, .wrongVerb read verb_eq⟩
  | ok verb =>
      by_cases isSelect : verb = .select
      · subst isSelect
        cases reply with
        | failure message => exact ⟨_, _, _, .refused read verb_eq rfl⟩
        | columns descriptors =>
            rcases processed :
                Directive.processAll (descriptors.map .ofDescriptor)
                  draft.locals directives with
              ⟨error | _, columns, locals⟩
            · exact ⟨_, _, _, .unattributed read verb_eq rfl
                (congrArg Prod.fst processed)⟩
            · exact ⟨_, _, _, .attributed read verb_eq rfl processed⟩
      · exact ⟨_, _, _, .unprobed read verb_eq isSelect⟩

/-- Every compilation takes a course. -/
theorem course_of_compile
    (compiler : Compiler)
    (definition : StatementDefinition)
    (session : Session) :
    ∃ left executed,
      Course compiler definition session.supply session.reply
        (compiler.compile definition session).1 left executed ∧
      session.Advances left executed
        (compiler.compile definition session).2 := by
  rcases exists_course compiler definition session.supply session.reply with
    ⟨outcome, left, executed, course⟩
  rcases compile_of_course course with ⟨outcome_eq, advances⟩
  rw [outcome_eq]
  exact ⟨left, executed, course, advances⟩

end Compiler

end AnnotatedSql
