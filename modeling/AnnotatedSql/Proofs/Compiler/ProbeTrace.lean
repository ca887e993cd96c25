import AnnotatedSql.Proofs.Compiler.Course
import AnnotatedSql.Proofs.Compiler.DocumentsInTurn
import AnnotatedSql.Proofs.Directive.Drawing
import AnnotatedSql.Proofs.Markup.Reading

/-!
# Which queries are executed

When the statements of a document are compiled in turn, each of them may draw
one token and may have one query executed.  An attempt keeps both for one
statement, with its outcome; and a run is the list of attempts that are made,
up to the first that fails.  The queries of a session are those of the
attempts, in order.

Only SELECT queries are executed, and what becomes of a definition is told by
the definition, its token and the reply to its query: in any other session
with the same token and reply the same becomes of it.
-/

namespace AnnotatedSql

open AnnotatedSql.Markup AnnotatedSql.Schema AnnotatedSql.Wildcard

/-- The tokens that are drawn first from a supply. -/
def Wildcard.TokenSupply.tokens : Nat → TokenSupply → List Text
  | 0, _ => []
  | count + 1, supply => supply.draw.1 :: tokens count supply.draw.2

/-! ## What a course depends on -/

namespace Compiler

variable
    {compiler : Compiler}
    {definition : StatementDefinition}
    {supply : TokenSupply}
    {reply : ProbeReply}
    {outcome : Except CompileError Statement}
    {left : TokenSupply}
    {executed : Option Text}

/-- A definition whose directives are all read, with a query that is a SELECT
and is not declared otherwise. -/
def Probes
    (compiler : Compiler)
    (definition : StatementDefinition)
    (supply : TokenSupply)
    (query : Text) : Prop :=
  ∃ directives draft,
    compiler.readBody { supply } definition.body = (.ok directives, draft) ∧
    query = compiler.query directives ∧
    Verb.ofText query = .ok .select ∧
    (definition.declared = none ∨ definition.declared = some .select)

theorem verbOf_eq_ok_iff
    {declared : Option Verb}
    {query : Text}
    {verb : Verb} :
    verbOf declared query = .ok verb ↔
      Verb.ofText query = .ok verb ∧
        (declared = none ∨ declared = some verb) := by
  unfold verbOf
  cases Verb.ofText query with
  | error error => simp [bind, Except.bind]
  | ok found =>
      cases declared with
      | none => simp [bind, Except.bind, pure, Except.pure]
      | some declared =>
          simp only [bind, Except.bind, pure, Except.pure]
          split_ifs with same
          · simp [same]
          · simp only [Except.ok.injEq, Option.some.injEq, false_or, false_iff,
              not_and]
            rintro rfl rfl
            exact same rfl

/-- The queries that are executed are those that definitions are probed with. -/
theorem Course.executed_iff
    (course : Course compiler definition supply reply outcome left executed)
    (query : Text) :
    executed = some query ↔ compiler.Probes definition supply query := by
  have probes
      {directives : List Directive}
      {draft : Draft}
      (read :
        compiler.readBody { supply } definition.body =
          (.ok directives, draft)) :
      compiler.Probes definition supply query ↔
        query = compiler.query directives ∧
          verbOf definition.declared query = .ok .select := by
    rw [verbOf_eq_ok_iff]
    constructor
    · rintro ⟨directives', draft', read', query_eq, isSelect, declared⟩
      rw [read] at read'
      cases read'
      exact ⟨query_eq, isSelect, declared⟩
    · rintro ⟨query_eq, isSelect, declared⟩
      exact ⟨directives, draft, read, query_eq, isSelect, declared⟩
  cases course with
  | unread read =>
      refine ⟨nofun, ?_⟩
      rintro ⟨directives, draft, read', _⟩
      rw [read] at read'
      cases read'
  | wrongVerb read verb_eq =>
      rw [probes read]
      refine ⟨nofun, ?_⟩
      rintro ⟨rfl, isSelect⟩
      rw [verb_eq] at isSelect
      cases isSelect
  | unprobed read verb_eq notSelect =>
      rw [probes read]
      refine ⟨nofun, ?_⟩
      rintro ⟨rfl, isSelect⟩
      rw [verb_eq] at isSelect
      exact absurd (Except.ok.inj isSelect) notSelect
  | refused read verb_eq | unattributed read verb_eq
  | attributed read verb_eq =>
      rw [probes read, Option.some.injEq]
      constructor
      · rintro rfl
        exact ⟨rfl, verb_eq⟩
      · rintro ⟨rfl, _⟩
        rfl

theorem Course.executed_of_ok
    {statement : Statement}
    (course :
      Course compiler definition supply reply (.ok statement) left executed) :
    executed =
      if statement.verb = .select then some statement.query else none := by
  cases course with
  | unprobed read verb_eq notSelect => rw [if_neg notSelect]
  | attributed read verb_eq reply_eq processed => rw [if_pos rfl]

/-- A course has nothing to do with a reply if no query is executed. -/
theorem Course.of_reply
    {reply' : ProbeReply}
    (course : Course compiler definition supply reply outcome left executed)
    (same : ∀ query ∈ executed, reply' = reply) :
    Course compiler definition supply reply' outcome left executed := by
  cases course with
  | unread read => exact .unread read
  | wrongVerb read verb_eq => exact .wrongVerb read verb_eq
  | unprobed read verb_eq notSelect => exact .unprobed read verb_eq notSelect
  | refused read verb_eq reply_eq =>
      exact .refused read verb_eq ((same _ rfl).trans reply_eq)
  | unattributed read verb_eq reply_eq processed =>
      exact .unattributed read verb_eq ((same _ rfl).trans reply_eq) processed
  | attributed read verb_eq reply_eq processed =>
      exact .attributed read verb_eq ((same _ rfl).trans reply_eq) processed

/-- A course has to do with a supply only through what is read with it. -/
theorem Course.of_supply
    {supply' left' : TokenSupply}
    (course : Course compiler definition supply reply outcome left executed)
    (same :
      ∀ read draft,
        compiler.readBody { supply } definition.body = (read, draft) →
        compiler.readBody { supply := supply' } definition.body =
          (read, ⟨draft.locals, left'⟩)) :
    Course compiler definition supply' reply outcome left' executed := by
  cases course with
  | unread read => exact .unread (same _ _ read)
  | wrongVerb read verb_eq => exact .wrongVerb (same _ _ read) verb_eq
  | unprobed read verb_eq notSelect =>
      exact .unprobed (same _ _ read) verb_eq notSelect
  | refused read verb_eq reply_eq =>
      exact .refused (same _ _ read) verb_eq reply_eq
  | unattributed read verb_eq reply_eq processed =>
      exact .unattributed (same _ _ read) verb_eq reply_eq processed
  | attributed read verb_eq reply_eq processed =>
      exact .attributed (same _ _ read) verb_eq reply_eq processed

end Compiler

/-! ## Attempts -/

/-- What becomes of a definition: the token that is drawn for it and the query
that is executed for it with the reply, if there are any, and the outcome. -/
structure Attempt where
  definition : StatementDefinition
  token? : Option Text
  probe? : Option (Text × ProbeReply)
  outcome : Except CompileError Statement

namespace Attempt

/-- The query that is executed. -/
def query? (attempt : Attempt) : Option Text :=
  attempt.probe?.map Prod.fst

/-- The reply to the query. -/
def reply? (attempt : Attempt) : Option ProbeReply :=
  attempt.probe?.map Prod.snd

/-- The supply has the token of the attempt next. -/
def Draws (attempt : Attempt) (supply : TokenSupply) : Prop :=
  ∀ token ∈ attempt.token?, supply.draw.1 = token

/-- The supply behind the attempt. -/
def left (attempt : Attempt) (supply : TokenSupply) : TokenSupply :=
  if attempt.token?.isSome then supply.draw.2 else supply

/-- The session has the token and the reply of the attempt next. -/
def Fits (attempt : Attempt) (session : Session) : Prop :=
  attempt.Draws session.supply ∧
    ∀ reply ∈ attempt.reply?, session.reply = reply

variable {attempt : Attempt}

/-- An attempt draws the first token, or none. -/
theorem append_tokens_left
    {supply : TokenSupply}
    (draws : attempt.Draws supply)
    (count : Nat) :
    attempt.token?.toList ++ (attempt.left supply).tokens count =
      supply.tokens (attempt.token?.toList.length + count) := by
  unfold left
  cases drawn : attempt.token? with
  | none => simp
  | some token =>
      rw [← draws token drawn, Nat.add_comm]
      rfl

/-- An attempt gets the first reply, or none. -/
theorem append_replies_left
    {session next : Session}
    {left : TokenSupply}
    (fits : attempt.Fits session)
    (advances : session.Advances left attempt.query? next)
    (count : Nat) :
    attempt.reply?.toList ++ next.replies.takeD count (.columns []) =
      session.replies.takeD (attempt.reply?.toList.length + count)
        (.columns []) := by
  have first := fits.2
  have replies_eq := advances.replies_eq
  unfold reply? at first ⊢
  unfold query? at replies_eq
  cases asked : attempt.probe? with
  | none =>
      rw [asked] at replies_eq
      simp [replies_eq]
  | some probe =>
      rw [asked] at replies_eq first
      have reply_eq : session.reply = probe.2 := first probe.2 rfl
      have next_eq : next.replies = session.replies.tail :=
        replies_eq.trans List.drop_one
      have replies_cons :
          session.replies.takeD (count + 1) (.columns []) =
            session.reply ::
              session.replies.tail.takeD count (.columns []) := by
        unfold Session.reply
        cases session.replies <;> rfl
      rw [next_eq, Nat.add_comm]
      exact (congrArg (· :: _) reply_eq.symm).trans replies_cons.symm

end Attempt

namespace Compiler

/-- An attempt is what becomes of its definition in every session that it
fits, and it fits some.  Its query, if it has one, is the one that the
definition is probed with, a SELECT that is not declared otherwise; and if the
attempt succeeds, it is the query of the statement. -/
structure Explains (compiler : Compiler) (attempt : Attempt) : Prop where
  exists_session : ∃ session, attempt.Fits session
  compile_eq :
    ∀ session,
      attempt.Fits session →
        (compiler.compile attempt.definition session).1 = attempt.outcome ∧
        session.Advances (attempt.left session.supply) attempt.query?
          (compiler.compile attempt.definition session).2
  query_iff :
    ∀ supply,
      attempt.Draws supply →
        ∀ query,
          attempt.query? = some query ↔
            compiler.Probes attempt.definition supply query
  select_of_query :
    ∀ query ∈ attempt.query?,
      Verb.ofText query = .ok .select ∧
        (attempt.definition.declared = none ∨
          attempt.definition.declared = some .select)
  query_of_ok :
    ∀ statement,
      attempt.outcome = .ok statement →
        attempt.query? =
          if statement.verb = .select then some statement.query else none

section

variable
    {compiler : Compiler}
    {definition : StatementDefinition}
    {supply : TokenSupply}
    {reply : ProbeReply}
    {outcome : Except CompileError Statement}
    {left : TokenSupply}
    {executed : Option Text}

/-- A course is taken with every supply that has the same token next, if one
is drawn, and with every supply otherwise. -/
theorem Course.exists_token
    (course : Course compiler definition supply reply outcome left executed) :
    ∃ token? : Option Text,
      (∀ token ∈ token?, supply.draw.1 = token) ∧
      ∀ supply',
        (∀ token ∈ token?, supply'.draw.1 = token) →
          Course compiler definition supply' reply outcome
            (if token?.isSome then supply'.draw.2 else supply') executed := by
  have drawsOnce :
      Draft.DrawsOnce {} fun supply =>
        compiler.readBody { supply } definition.body :=
    compiler.drawsOnce_readBody definition.body
  rcases drawsOnce with ⟨read, locals, read_eq⟩ | ⟨_, told, read_eq, _⟩ <;>
    beta_reduce at read_eq
  · refine ⟨none, nofun, fun supply' _ => course.of_supply ?_⟩
    intro read' draft read'_eq
    rw [read_eq supply] at read'_eq
    cases read'_eq
    exact read_eq supply'
  · refine ⟨some supply.draw.1, fun token same => Option.some.inj same,
      fun supply' drawn => course.of_supply ?_⟩
    have same : supply'.draw.1 = supply.draw.1 := drawn _ rfl
    intro read' draft read'_eq
    rw [read_eq supply] at read'_eq
    cases read'_eq
    rw [← same]
    exact read_eq supply'

end

/-- Compiling a statement is an attempt at its definition. -/
theorem exists_attempt
    (compiler : Compiler)
    (definition : StatementDefinition)
    (session : Session) :
    ∃ attempt,
      attempt.definition = definition ∧
      compiler.Explains attempt ∧
      attempt.Fits session := by
  rcases exists_course compiler definition session.supply session.reply with
    ⟨outcome, left, executed, course⟩
  rcases course.exists_token with ⟨token?, drawn, courses⟩
  let attempt : Attempt :=
    ⟨definition, token?, executed.map (·, session.reply), outcome⟩
  have query_eq : attempt.query? = executed := by
    cases executed <;> rfl
  have fits : attempt.Fits session := by
    refine ⟨drawn, fun reply replied => ?_⟩
    rcases Option.map_eq_some_iff.1 replied with ⟨probe, asked, rfl⟩
    rcases Option.map_eq_some_iff.1 asked with ⟨query, _, rfl⟩
    rfl
  refine ⟨attempt, rfl, ⟨⟨session, fits⟩, ?_, ?_, ?_, ?_⟩, fits⟩
  · intro session' fits
    have same (query : Text) (asked : query ∈ executed) :
        session'.reply = session.reply := by
      cases asked
      exact fits.2 session.reply rfl
    rw [query_eq]
    exact compile_of_course ((courses session'.supply fits.1).of_reply same)
  · intro supply draws query
    rw [query_eq]
    exact (courses supply draws).executed_iff query
  · intro query asked
    rw [query_eq] at asked
    rcases (course.executed_iff query).1 asked with
      ⟨_, _, _, _, isSelect, declared⟩
    exact ⟨isSelect, declared⟩
  · intro statement compiled
    rw [query_eq]
    have outcome_eq : outcome = .ok statement := compiled
    rw [outcome_eq] at course
    exact course.executed_of_ok

/-! ## Runs -/

/-- The attempts at definitions in turn, up to the first that fails. -/
inductive Runs (compiler : Compiler) :
    Session → List StatementDefinition → List Attempt →
      Except CompileError (List Statement) → Session → Prop where
  | finished (session : Session) : Runs compiler session [] [] (.ok []) session
  | failed
      {session next : Session}
      {attempt : Attempt}
      {error : CompileError}
      (explained : compiler.Explains attempt)
      (fits : attempt.Fits session)
      (outcome_eq : attempt.outcome = .error error)
      (advances :
        session.Advances (attempt.left session.supply) attempt.query? next)
      (definitions : List StatementDefinition) :
      Runs compiler session (attempt.definition :: definitions) [attempt]
        (.error error) next
  | compiled
      {session next last : Session}
      {attempt : Attempt}
      {statement : Statement}
      {definitions : List StatementDefinition}
      {attempts : List Attempt}
      {outcome : Except CompileError (List Statement)}
      (explained : compiler.Explains attempt)
      (fits : attempt.Fits session)
      (outcome_eq : attempt.outcome = .ok statement)
      (advances :
        session.Advances (attempt.left session.supply) attempt.query? next)
      (others : Runs compiler next definitions attempts outcome last) :
      Runs compiler session (attempt.definition :: definitions)
        (attempt :: attempts) (outcome.map (statement :: ·)) last

/-- Compiling statements in turn is a run. -/
theorem runs_compileAll
    (compiler : Compiler)
    (session : Session)
    (definitions : List StatementDefinition) :
    ∃ attempts,
      Runs compiler session definitions attempts
        (compiler.compileAll session definitions).1
        (compiler.compileAll session definitions).2 := by
  induction definitions generalizing session with
  | nil => exact ⟨[], .finished session⟩
  | cons definition definitions induction_hypothesis =>
      rcases compiler.exists_attempt definition session with
        ⟨attempt, rfl, explained, fits⟩
      rcases compiled : compiler.compile attempt.definition session with
        ⟨error | statement, next⟩
      · have explains := explained.compile_eq session fits
        rw [compiled] at explains
        refine ⟨[attempt], ?_⟩
        rw [compileAll, compiled]
        exact .failed explained fits explains.1.symm explains.2 definitions
      · have explains := explained.compile_eq session fits
        rw [compiled] at explains
        rcases induction_hypothesis next with ⟨attempts, others⟩
        refine ⟨attempt :: attempts, ?_⟩
        have run :=
          Runs.compiled explained fits explains.1.symm explains.2 others
        rw [compileAll, compiled]
        simp only
        split
        · next read =>
          rw [read] at run
          exact run
        · next read =>
          rw [read] at run
          exact run

section

variable
    {compiler : Compiler}
    {session last : Session}
    {definitions : List StatementDefinition}
    {attempts : List Attempt}
    {outcome : Except CompileError (List Statement)}

/-- All attempts but the last succeed, and all definitions are attempted if
the last one does too. -/
theorem Runs.reaches
    (run : Runs compiler session definitions attempts outcome last) :
    attempts.map Attempt.definition <+: definitions ∧
      (∀ attempt ∈ attempts.dropLast,
        ∃ statement, attempt.outcome = .ok statement) ∧
      ((∀ attempt ∈ attempts, ∃ statement, attempt.outcome = .ok statement) →
        attempts.map Attempt.definition = definitions) := by
  induction run with
  | finished => exact ⟨List.prefix_rfl, by simp, fun _ => rfl⟩
  | @failed session next attempt error explained fits outcome_eq advances
      definitions =>
      refine ⟨⟨definitions, rfl⟩, by simp, fun compiled => ?_⟩
      rcases compiled attempt List.mem_cons_self with ⟨statement, compiled⟩
      rw [outcome_eq] at compiled
      cases compiled
  | @compiled session next last attempt statement definitions attempts outcome
      explained fits outcome_eq advances others induction_hypothesis =>
      rcases induction_hypothesis with ⟨reached, succeeded, complete⟩
      refine ⟨(List.prefix_cons_inj _).2 reached, ?_, fun compiled => ?_⟩
      · intro attempt' member
        cases attempts with
        | nil => cases member
        | cons second attempts =>
            rw [List.dropLast_cons_cons, List.mem_cons] at member
            rcases member with rfl | member
            · exact ⟨statement, outcome_eq⟩
            · exact succeeded attempt' member
      · rw [List.map_cons,
          complete fun attempt member =>
            compiled attempt (List.mem_cons_of_mem _ member)]

/-- The outcome of a run is that of its attempts in turn. -/
theorem Runs.outcome_eq
    (run : Runs compiler session definitions attempts outcome last) :
    outcome = attempts.mapM Attempt.outcome := by
  induction run with
  | finished => rfl
  | failed explained fits outcome_eq advances definitions =>
      rw [List.mapM_cons, outcome_eq]
      rfl
  | @compiled session next last attempt statement definitions attempts outcome
      explained fits outcome_eq advances others induction_hypothesis =>
      rw [List.mapM_cons, outcome_eq, induction_hypothesis]
      generalize attempts.mapM Attempt.outcome = others
      cases others <;> rfl

/-- The queries of a run are executed in order, each once. -/
theorem Runs.queries_eq
    (run : Runs compiler session definitions attempts outcome last) :
    last.queries = session.queries ++ attempts.filterMap Attempt.query? := by
  induction run with
  | finished => exact (List.append_nil _).symm
  | failed explained fits outcome_eq advances definitions =>
      rw [advances.queries_eq, Lists.filterMap_cons_toList, List.filterMap_nil,
        List.append_nil]
  | compiled explained fits outcome_eq advances others induction_hypothesis =>
      rw [induction_hypothesis, advances.queries_eq,
        Lists.filterMap_cons_toList, List.append_assoc]

theorem Runs.explained
    (run : Runs compiler session definitions attempts outcome last) :
    ∀ attempt ∈ attempts, compiler.Explains attempt := by
  induction run with
  | finished => simp
  | failed explained => simpa using explained
  | compiled explained fits outcome_eq advances others induction_hypothesis =>
      exact List.forall_mem_cons.2 ⟨explained, induction_hypothesis⟩

/-- The tokens that a run draws are the first of the supply. -/
theorem Runs.tokens_eq
    (run : Runs compiler session definitions attempts outcome last) :
    attempts.filterMap Attempt.token? =
      session.supply.tokens (attempts.filterMap Attempt.token?).length := by
  induction run with
  | finished => rfl
  | failed explained fits outcome_eq advances definitions =>
      rw [Lists.filterMap_cons_toList, List.length_append,
        ← Attempt.append_tokens_left fits.1]
      rfl
  | compiled explained fits outcome_eq advances others induction_hypothesis =>
      rw [Lists.filterMap_cons_toList, List.length_append,
        ← Attempt.append_tokens_left fits.1, ← advances.supply_eq,
        ← induction_hypothesis]

/-- The replies that a run gets are the first of the session, and no columns
when there are no more of them. -/
theorem Runs.replies_eq
    (run : Runs compiler session definitions attempts outcome last) :
    attempts.filterMap Attempt.reply? =
      session.replies.takeD (attempts.filterMap Attempt.reply?).length
        (.columns []) := by
  induction run with
  | finished => rfl
  | failed explained fits outcome_eq advances definitions =>
      rw [Lists.filterMap_cons_toList, List.length_append,
        ← Attempt.append_replies_left fits advances]
      rfl
  | compiled explained fits outcome_eq advances others induction_hypothesis =>
      rw [Lists.filterMap_cons_toList, List.length_append,
        ← Attempt.append_replies_left fits advances, ← induction_hypothesis]

end

end Compiler

/-! ## Documents -/

namespace Compiler

/--
A document whose definitions are not read is refused without a query.  For any
other document the queries that are executed are those of the attempts at its
definitions, in document order and up to the first attempt that fails, and the
tokens and replies that the attempts take are the first of the session.  Each
attempt's query is a SELECT, and the definition is probed with it; and what
becomes of a definition is the same in every session that has the same token
and reply next.
-/
theorem compileDocument_attempts
    (compiler : Compiler)
    (document : Text)
    (session : Session) :
    (∀ error,
      (session.definitions document).1 = .error error →
        (compiler.compileDocument document session).1 =
          .error (.source error) ∧
        (compiler.compileDocument document session).2.queries =
          session.queries) ∧
    (∀ definitions,
      (session.definitions document).1 = .ok definitions →
        ∃ attempts : List Attempt,
          attempts.map Attempt.definition <+: definitions ∧
          (∀ attempt ∈ attempts.dropLast,
            ∃ statement, attempt.outcome = .ok statement) ∧
          ((∀ attempt ∈ attempts,
              ∃ statement, attempt.outcome = .ok statement) →
            attempts.map Attempt.definition = definitions) ∧
          (compiler.compileDocument document session).1 =
            (attempts.mapM Attempt.outcome).mapError .statement ∧
          (compiler.compileDocument document session).2.queries =
            session.queries ++ attempts.filterMap Attempt.query? ∧
          attempts.filterMap Attempt.token? =
            session.supply.tokens
              (attempts.filterMap Attempt.token?).length ∧
          attempts.filterMap Attempt.reply? =
            session.replies.takeD (attempts.filterMap Attempt.reply?).length
              (.columns []) ∧
          ∀ attempt ∈ attempts, compiler.Explains attempt) := by
  rcases read : session.definitions document with ⟨outcome, parsed⟩
  have supply_eq : parsed.supply = session.supply :=
    congrArg (·.2.supply) read.symm
  have replies_eq : parsed.replies = session.replies :=
    congrArg (·.2.replies) read.symm
  have queries_eq : parsed.queries = session.queries :=
    congrArg (·.2.queries) read.symm
  constructor
  · rintro error refused
    cases refused
    rw [compileDocument, read]
    exact ⟨rfl, queries_eq⟩
  · rintro definitions accepted
    cases accepted
    rcases compiler.runs_compileAll parsed definitions with ⟨attempts, run⟩
    have compiled :
        (compiler.compileDocument document session).1 =
            (compiler.compileAll parsed definitions).1.mapError .statement ∧
          (compiler.compileDocument document session).2 =
            (compiler.compileAll parsed definitions).2 := by
      simp only [compileDocument, read]
      split
      · next failed =>
        rw [failed]
        exact ⟨rfl, rfl⟩
      · next succeeded =>
        rw [succeeded]
        exact ⟨rfl, rfl⟩
    rcases run.reaches with ⟨reached, succeeded, complete⟩
    refine ⟨attempts, reached, succeeded, complete, ?_, ?_, ?_, ?_,
      run.explained⟩
    · rw [compiled.1, run.outcome_eq]
    · rw [compiled.2, run.queries_eq, queries_eq]
    · rw [← supply_eq]
      exact run.tokens_eq
    · rw [← replies_eq]
      exact run.replies_eq

/-! ### A query that the database refuses -/

/-- Four statements, the third with a column that there is not. -/
def refusedDocument : Text :=
  "<stmt name=\"a\">SELECT 1</stmt>" ++
    "<delete name=\"b\">DELETE</delete>" ++
    "<select name=\"c\">SELECT x</select>" ++
    "<select name=\"d\">SELECT 2</select>"

/-- The definitions in it. -/
def refusedDefinitions : List StatementDefinition :=
  [⟨"a", [.text "SELECT 1"], none⟩,
    ⟨"b", [.text "DELETE"], some .delete⟩,
    ⟨"c", [.text "SELECT x"], some .select⟩,
    ⟨"d", [.text "SELECT 2"], some .select⟩]

/-- The queries of `a` and `c`. -/
def refusedQueries : List Text :=
  ["SELECT 1", "SELECT x"]

/-- The replies to them. -/
def refusedReplies : List ProbeReply :=
  [.columns [⟨"1", .unknown⟩], .failure "no such column: x"]

/-- A session with these replies. -/
def refusedSession : Session where
  supply := ⟨"00", []⟩
  replies := refusedReplies

set_option maxRecDepth 8000 in
theorem parse_refusedDocument (parser : Markup.Parser) :
    (parser.parse refusedDocument).1 =
      .ok [.element "stmt" [("name", "a")] [.text "SELECT 1"] 1,
        .element "delete" [("name", "b")] [.text "DELETE"] 1,
        .element "select" [("name", "c")] [.text "SELECT x"] 1,
        .element "select" [("name", "d")] [.text "SELECT 2"] 1] := by
  have read := Markup.Lexer.reads_readFor 32 ⟨refusedDocument, .content, 1⟩
  have read_eq :
      Markup.Lexer.readFor 32 ⟨refusedDocument, .content, 1⟩ =
        ([⟨.openTag "stmt", 1⟩, ⟨.name "name", 1⟩, ⟨.equals, 1⟩,
            ⟨.string "a", 1⟩, ⟨.tagEnd, 1⟩, ⟨.text "SELECT 1", 1⟩,
            ⟨.closeTag "stmt", 1⟩,
            ⟨.openTag "delete", 1⟩, ⟨.name "name", 1⟩, ⟨.equals, 1⟩,
            ⟨.string "b", 1⟩, ⟨.tagEnd, 1⟩, ⟨.text "DELETE", 1⟩,
            ⟨.closeTag "delete", 1⟩,
            ⟨.openTag "select", 1⟩, ⟨.name "name", 1⟩, ⟨.equals, 1⟩,
            ⟨.string "c", 1⟩, ⟨.tagEnd, 1⟩, ⟨.text "SELECT x", 1⟩,
            ⟨.closeTag "select", 1⟩,
            ⟨.openTag "select", 1⟩, ⟨.name "name", 1⟩, ⟨.equals, 1⟩,
            ⟨.string "d", 1⟩, ⟨.tagEnd, 1⟩, ⟨.text "SELECT 2", 1⟩,
            ⟨.closeTag "select", 1⟩],
          ⟨[], .content, 1⟩) := by
    cbv
  rw [read_eq] at read
  exact Markup.Parser.parse_eq_ok_iff.2 ⟨_, read.tokenize_eq, rfl⟩

/-- The queries of the first and the third statement are executed, with the
replies that there are.  The second statement has none, and the fourth comes
behind the refusal. -/
theorem compileDocument_attempts_refused :
    (refusedSession.definitions refusedDocument).1 = .ok refusedDefinitions ∧
    (selfJoinCompiler.compileDocument refusedDocument refusedSession).1 =
      .error (.statement ⟨.database "no such column: x", "c"⟩) ∧
    (selfJoinCompiler.compileDocument refusedDocument
        refusedSession).2.queries = refusedQueries ∧
    ∃ attempts : List Attempt,
      attempts.map Attempt.definition <+: refusedDefinitions ∧
      attempts.mapM Attempt.outcome =
        .error ⟨.database "no such column: x", "c"⟩ ∧
      attempts.filterMap Attempt.query? = refusedQueries ∧
      attempts.filterMap Attempt.reply? = refusedReplies := by
  have defined :
      refusedSession.definitions refusedDocument =
        (.ok refusedDefinitions, _) :=
    Session.definitions_of_parse (parse_refusedDocument _) (by cbv)
  have compileAll_eq (parser : Markup.Parser) :
      selfJoinCompiler.compileAll { refusedSession with parser := parser }
          refusedDefinitions =
        (.error ⟨.database "no such column: x", "c"⟩,
          { refusedSession with
            parser := parser
            replies := []
            queries := refusedQueries
            events :=
              [.probing "a" "SELECT 1", .compiledStatement "a" "SELECT",
                .compiledStatement "b" "DELETE",
                .probing "c" "SELECT x"] }) := by
    cbv
  have outcome_eq :
      (selfJoinCompiler.compileDocument refusedDocument refusedSession).1 =
        .error (.statement ⟨.database "no such column: x", "c"⟩) := by
    rw [compileDocument, defined]
    simp only [compileAll_eq]
  have queries_eq :
      (selfJoinCompiler.compileDocument refusedDocument
          refusedSession).2.queries = refusedQueries := by
    rw [compileDocument, defined]
    simp only [compileAll_eq]
  have read :
      (refusedSession.definitions refusedDocument).1 =
        .ok refusedDefinitions := by
    rw [defined]
  rcases (compileDocument_attempts selfJoinCompiler refusedDocument
      refusedSession).2 refusedDefinitions read with
    ⟨attempts, reached, _, _, outcomes, queries, _, replies, _⟩
  rw [queries_eq] at queries
  have asked :
      attempts.filterMap Attempt.query? = refusedQueries :=
    queries.symm
  have replied :
      (attempts.filterMap Attempt.reply?).length =
        (attempts.filterMap Attempt.query?).length := by
    unfold Attempt.reply? Attempt.query?
    rw [← List.map_filterMap, ← List.map_filterMap, List.length_map,
      List.length_map]
  rw [replied, asked] at replies
  rw [outcome_eq] at outcomes
  rcases Outcome.mapError_eq_error_iff.1 outcomes.symm with
    ⟨error, attempted, error_eq⟩
  cases error_eq
  exact ⟨read, outcome_eq, queries_eq, attempts, reached, attempted, asked,
    replies⟩

end Compiler

end AnnotatedSql
