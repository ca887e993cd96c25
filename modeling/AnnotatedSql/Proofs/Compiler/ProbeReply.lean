import AnnotatedSql.Proofs.Directive.Processing
import AnnotatedSql.Proofs.Schema.ColumnOrder
import AnnotatedSql.Proofs.Wildcard.PrintedNames
import AnnotatedSql.Proofs.Wildcard.SentinelName
import AnnotatedSql.Schema.Report

/-!
# Replies to probe queries

A database that executes the probe query of a statement reports, for each
wildcard in document order, the begin sentinel, one column for each column of
the wildcard's table, and the end sentinel, among columns of its own.  It may
report the names of the sentinels in another case.  Compiling a SELECT
statement against such a reply succeeds: every column between the sentinels
of a wildcard gets the column of the wildcard's table at its place as its
source, and all others stay without a source.

The theorem joins what the parts guarantee: reading the body numbers the
wildcards, sentinels decode in any case, the walk accepts blocks, only the
first wildcard attributes columns, and a loaded table has its columns in
schema order.
-/

namespace AnnotatedSql

open AnnotatedSql.Markup AnnotatedSql.Schema AnnotatedSql.Wildcard

/-- A result column as it is reported, without a source. -/
def ResultColumn.ofDescriptor (descriptor : ColumnDescriptor) : ResultColumn :=
  { name := descriptor.name, type := descriptor.type }

/-- A name that is no sentinel of the statement made of the directives. -/
def Directive.Ordinary
    (directives : List Directive)
    (name : Text) : Prop :=
  ∀ pair ∈ Directive.wildcards directives, pair.1.Ordinary name

instance (directives : List Directive) (name : Text) :
    Decidable (Directive.Ordinary directives name) :=
  inferInstanceAs (Decidable (∀ pair ∈ _, _))

/--
A reply that answers the wildcards of a list in turn, with the result columns
that it stands for.  The columns of a wildcard stand between two that are
named, up to case, by the first and the last label of what the wildcard prints
in the probe query.  `ordinary` says which names are no sentinels.
-/
inductive Answers (quote : Text → Text) (ordinary : Text → Prop) :
    List (MarkerToken × Wildcard) →
      List ColumnDescriptor → List ResultColumn → Prop where
  | last
      (columns : List ColumnDescriptor)
      (plain : ∀ column ∈ columns, ordinary column.name) :
      Answers quote ordinary [] columns (columns.map .ofDescriptor)
  | wildcard
      {token : MarkerToken}
      {wildcard : Wildcard}
      (before : List ColumnDescriptor)
      (plain : ∀ column ∈ before, ordinary column.name)
      (opening : ColumnDescriptor)
      (opens :
        Text.EqualUpToCase opening.name
          (Text.firstLabel
            ((Directive.wildcard token wildcard).queryFragment quote)))
      (inside : List ColumnDescriptor)
      (plainInside : ∀ column ∈ inside, ordinary column.name)
      (complete : inside.length = wildcard.table.columns.length)
      (closing : ColumnDescriptor)
      (closes :
        Text.EqualUpToCase closing.name
          (Text.lastLabel
            ((Directive.wildcard token wildcard).queryFragment quote)))
      {wildcards : List (MarkerToken × Wildcard)}
      {later : List ColumnDescriptor}
      {result : List ResultColumn}
      (answers : Answers quote ordinary wildcards later result) :
      Answers quote ordinary ((token, wildcard) :: wildcards)
        (before ++ opening :: (inside ++ closing :: later))
        (before.map .ofDescriptor ++
          wildcard.attributeAll (inside.map .ofDescriptor) ++ result)

/-! ## Replies are cut into blocks -/

namespace Wildcard.Resolution

variable {resolution : Resolution}

/-- Ordinary columns are blocks of their own. -/
theorem exists_blocks_of_ordinary
    {columns : List ColumnDescriptor}
    (plain : ∀ column ∈ columns, resolution.token.Ordinary column.name) :
    ∃ blocks : List (Block resolution),
      columns.map .ofDescriptor = blocks.flatMap Block.reported ∧
        columns.map .ofDescriptor = blocks.flatMap Block.attributed := by
  induction columns with
  | nil => exact ⟨[], rfl, rfl⟩
  | cons column columns induction_hypothesis =>
      rcases induction_hypothesis
        (fun column member => plain column (List.mem_cons_of_mem _ member)) with
        ⟨blocks, reported, attributed⟩
      refine
        ⟨.ordinary (.ofDescriptor column)
          (plain column (List.mem_cons_self ..)) :: blocks, ?_, ?_⟩
      · rw [List.map_cons, List.flatMap_cons, reported]
        rfl
      · rw [List.map_cons, List.flatMap_cons, attributed]
        rfl

/-- The wildcard is registered, under the token and a number that is read. -/
def Owns (resolution : Resolution) (pair : MarkerToken × Wildcard) : Prop :=
  pair.1 = resolution.token ∧
    resolution.wildcards[pair.2.index]? = some pair.2 ∧
    pair.2.index < 10 ^ Numeral.longest

/-- A reply to registered wildcards is a list of blocks. -/
theorem exists_blocks_of_answers
    {quote : Text → Text}
    {ordinary : Text → Prop}
    (sound : ∀ name, ordinary name → resolution.token.Ordinary name)
    {wildcards : List (MarkerToken × Wildcard)}
    {reply : List ColumnDescriptor}
    {result : List ResultColumn}
    (answers : Answers quote ordinary wildcards reply result)
    (owned : ∀ pair ∈ wildcards, resolution.Owns pair) :
    ∃ blocks : List (Block resolution),
      reply.map .ofDescriptor = blocks.flatMap Block.reported ∧
        result = blocks.flatMap Block.attributed := by
  induction answers with
  | last columns plain =>
      exact exists_blocks_of_ordinary
        (fun column member => sound _ (plain column member))
  | @wildcard token wildcard before plain opening opens inside plainInside
      complete closing closes wildcards later result answers
      induction_hypothesis =>
      rcases owned _ (List.mem_cons_self ..) with ⟨token_eq, found, bounded⟩
      subst token_eq
      rw [firstLabel_queryFragment] at opens
      rw [lastLabel_queryFragment] at closes
      rcases exists_blocks_of_ordinary
          (fun column member => sound _ (plain column member)) with
        ⟨first, firstReported, firstAttributed⟩
      rcases induction_hypothesis
          (fun pair member => owned pair (List.mem_cons_of_mem _ member)) with
        ⟨others, othersReported, othersAttributed⟩
      let bracket : Bracket resolution :=
        { place := wildcard.index
          wildcard
          found
          opening := .ofDescriptor opening
          opens := MarkerToken.decode_of_equalUpToCase bounded opens
          inside := inside.map .ofDescriptor
          plain := by
            intro column member
            rcases List.mem_map.1 member with
              ⟨descriptor, descriptorMember, rfl⟩
            exact sound _ (plainInside descriptor descriptorMember)
          complete := by rw [List.length_map]; exact complete
          closing := .ofDescriptor closing
          closes := MarkerToken.decode_of_equalUpToCase bounded closes }
      refine ⟨first ++ .bracket bracket :: others, ?_, ?_⟩
      · rw [List.flatMap_append, List.flatMap_cons, ← firstReported,
          ← othersReported]
        simp [Block.reported, bracket]
      · rw [List.flatMap_append, List.flatMap_cons, ← firstAttributed,
          ← othersAttributed, List.append_assoc]
        rfl

end Wildcard.Resolution

/-! ## Compiling against a reply -/

namespace Compiler

variable
    {compiler : Compiler}
    {directives : List Directive}
    {reply : List ColumnDescriptor}
    {expected : List ResultColumn}

/-- The wildcards of a body are those of the resolution it registered them
in. -/
theorem owns_of_readBody
    {supply : TokenSupply}
    {nodes : List Node}
    {draft : Draft}
    (read : compiler.readBody { supply } nodes = (.ok directives, draft))
    (countable :
      (Directive.wildcards directives).length ≤ 10 ^ Numeral.longest)
    {resolution : Resolution}
    (found : draft.resolution? = some resolution) :
    resolution.Registered ∧
      ∀ pair ∈ Directive.wildcards directives, resolution.Owns pair := by
  rcases registers_of_readBody read with ⟨registers, _⟩
  have registered : resolution.Registered :=
    registers.registered (by intro _ absent; exact nomatch absent) _ found
  have wildcards_eq :
      resolution.wildcards =
        (Directive.wildcards directives).map Prod.snd := by
    have described := registers.wildcards_eq
    rw [Draft.wildcards, found] at described
    exact described
  refine ⟨registered, ?_⟩
  intro pair member
  rcases registers.has_token pair member with ⟨resolution', found', token_eq⟩
  rw [found, Option.some.injEq] at found'
  subst found'
  have memberWildcards : pair.2 ∈ resolution.wildcards := by
    rw [wildcards_eq]
    exact List.mem_map_of_mem member
  rcases List.getElem_of_mem memberWildcards with ⟨place, inside, place_eq⟩
  have foundAt : resolution.wildcards[place]? = some pair.2 := by
    rw [List.getElem?_eq_getElem inside, place_eq]
  have index_eq := registered.index_eq foundAt
  refine ⟨token_eq.symm, index_eq ▸ foundAt, ?_⟩
  rw [index_eq]
  rw [wildcards_eq, List.length_map] at inside
  exact Nat.lt_of_lt_of_le inside countable

/-- The directives of a body attribute a reply to its wildcards. -/
theorem processAll_of_answers
    {supply : TokenSupply}
    {nodes : List Node}
    {draft : Draft}
    (read : compiler.readBody { supply } nodes = (.ok directives, draft))
    (countable :
      (Directive.wildcards directives).length ≤ 10 ^ Numeral.longest)
    (answers :
      Answers compiler.quote (Directive.Ordinary directives)
        (Directive.wildcards directives) reply expected) :
    ∃ after : StatementLocals,
      Directive.processAll (reply.map .ofDescriptor) draft.locals directives =
        (.ok (), expected, after) := by
  rcases wildcards_eq : Directive.wildcards directives with _ | ⟨pair, others⟩
  · rw [wildcards_eq] at answers
    cases answers
    exact ⟨_, Directive.processAll_of_no_wildcards wildcards_eq _ _⟩
  · have member : pair ∈ Directive.wildcards directives := by
      rw [wildcards_eq]
      exact List.mem_cons_self ..
    rcases (registers_of_readBody read).1.has_token pair member with
      ⟨resolution, found, token_eq⟩
    rcases owns_of_readBody read countable found with ⟨registered, owned⟩
    rcases Resolution.exists_blocks_of_answers
        (fun name plain => token_eq ▸ plain pair member) answers owned with
      ⟨blocks, reported, rfl⟩
    rw [reported]
    exact Directive.processAll_of_wildcards found registered.unprocessed
      (by rw [wildcards_eq]; exact List.cons_ne_nil _ _)
      (Resolution.attributed_flatMap_reported registered blocks)

/-- The table of a wildcard is one of the catalog. -/
theorem mem_tables_of_wildcard
    {element : Element}
    {catalog : Catalog}
    {table : Table}
    {tableAlias : Text}
    (described : element.wildcard catalog = .ok (table, tableAlias)) :
    table ∈ catalog.tables := by
  simp only [Element.wildcard, Outcome.bind_eq_ok_iff] at described
  rcases described with ⟨_, _, name, _, _, _, described⟩
  split at described
  · next found =>
    cases described
    exact Dictionary.mem_of_itemNamed? found
  · exact nomatch described

/-- What a wildcard prints stands in the query that is executed. -/
theorem queryFragment_infix_query
    {token : MarkerToken}
    {wildcard : Wildcard}
    (member : (token, wildcard) ∈ Directive.wildcards directives) :
    (Directive.wildcard token wildcard).queryFragment compiler.quote <:+:
      compiler.query directives := by
  have listed : Directive.wildcard token wildcard ∈ directives := by
    rcases List.mem_filterMap.1 member with ⟨directive, listed, found⟩
    cases directive <;> cases found
    exact listed
  rcases List.append_of_mem listed with ⟨before, after, rfl⟩
  refine queryFragment_infix_trim compiler.quote token wildcard ?_
  rw [List.flatMap_append, List.flatMap_cons]
  exact List.infix_append' ..

theorem compile_of_processAll
    {definition : StatementDefinition}
    {session : Session}
    {draft : Draft}
    (read :
      compiler.readBody { supply := session.supply } definition.body =
        (.ok directives, draft))
    (isSelect : Verb.ofText (compiler.query directives) = .ok .select)
    (declared :
      definition.declared = none ∨ definition.declared = some .select)
    {later : List ProbeReply}
    (replies : session.replies = .columns reply :: later)
    {after : StatementLocals}
    (processed :
      Directive.processAll (reply.map .ofDescriptor) draft.locals directives =
        (.ok (), expected, after)) :
    ∃ (statement : Statement) (next : Session),
      compiler.compile definition session = (.ok statement, next) ∧
        statement.columns = expected := by
  have verb_eq :
      verbOf definition.declared (compiler.query directives) = .ok .select := by
    rcases declared with declared | declared <;>
      rw [verbOf, isSelect, declared] <;> rfl
  have columns_eq (session : Session)
      (replies : session.replies = .columns reply :: later) :
      ∃ next : Session,
        resultColumns definition.name (compiler.query directives) directives
            draft.locals session = (.ok (expected, after), next) := by
    simp only [resultColumns, Session.probe, Session.report, replies]
    rw [show
      (reply.map fun descriptor =>
        ({ name := descriptor.name, type := descriptor.type } :
          ResultColumn)) = reply.map .ofDescriptor from rfl, processed]
    exact ⟨_, rfl⟩
  rcases columns_eq { session with supply := draft.supply } replies with
    ⟨next, columns_eq⟩
  simp only [compile, read, assemble, verb_eq, columnsOf, columns_eq]
  exact ⟨_, _, rfl, rfl⟩

/--
Compiling a SELECT statement against a reply that answers its wildcards
succeeds with the result columns of the reply.  The wildcards are those of
the body in document order; what they print, with the names that the reply
brackets their columns by, stands in the executed query; and their tables are
tables of the catalog with their columns in schema order.  The number of a
sentinel is written in decimal, and a numeral of more than `Numeral.longest`
digits is refused; a statement may have as many wildcards as there are numbers
of that length.
-/
theorem compile_answers
    {engine : Engine}
    {accepts : Text → Bool}
    (loaded : (Catalog.load engine accepts).1 = .ok compiler.catalog)
    {definition : StatementDefinition}
    {session : Session}
    {draft : Draft}
    (read :
      compiler.readBody { supply := session.supply } definition.body =
        (.ok directives, draft))
    (countable :
      (Directive.wildcards directives).length ≤ 10 ^ Numeral.longest)
    (isSelect : Verb.ofText (compiler.query directives) = .ok .select)
    (declared :
      definition.declared = none ∨ definition.declared = some .select)
    {later : List ProbeReply}
    (replies : session.replies = .columns reply :: later)
    (answers :
      Answers compiler.quote (Directive.Ordinary directives)
        (Directive.wildcards directives) reply expected) :
    (∃ (statement : Statement) (next : Session),
      compiler.compile definition session = (.ok statement, next) ∧
        statement.columns = expected) ∧
      expansions (Directive.wildcards directives) =
        (compiler.wildcardElements definition.body).map
          (Element.wildcard · compiler.catalog) ∧
      ∀ pair ∈ Directive.wildcards directives,
        (Directive.wildcard pair.1 pair.2).queryFragment compiler.quote <:+:
            compiler.query directives ∧
          pair.2.table ∈ compiler.catalog.tables ∧
          Catalog.MirrorsColumns engine pair.2.table := by
  have described := (registers_of_readBody read).2
  refine ⟨?_, described, ?_⟩
  · rcases processAll_of_answers read countable answers with ⟨after, processed⟩
    exact compile_of_processAll read isSelect declared replies processed
  · intro pair member
    have expansionMember :
        Except.ok (pair.2.table, pair.2.tableAlias) ∈
          expansions (Directive.wildcards directives) :=
      List.mem_map.2 ⟨pair, member, rfl⟩
    rw [described] at expansionMember
    rcases List.mem_map.1 expansionMember with ⟨element, _, element_eq⟩
    have tableMember := mem_tables_of_wildcard element_eq
    exact ⟨queryFragment_infix_query member, tableMember,
      Catalog.mirrorsColumns_of_load loaded _ tableMember⟩

/-! ## A self-join -/

/-- A schema with a table of two columns and a table without columns. -/
def selfJoinReport : Report where
  tables :=
    [{ name := "user", columns := [⟨"id", .unknown⟩, ⟨"name", .unknown⟩] },
      { name := "nothing" }]
  opening := "`"
  closing := "`"

def selfJoinUser : Table :=
  { name := "user"
    columns := [⟨"id", 0, .unknown⟩, ⟨"name", 1, .unknown⟩]
    columnPlaces := [("id", 0), ("name", 1)] }

def selfJoinCompiler : Compiler where
  catalog :=
    (({} : Catalog).withTable "user" selfJoinUser).withTable "nothing"
      { name := "nothing" }
  quote := selfJoinReport.engine.quote

/-- Two wildcards over one table, and between them one over no columns. -/
def selfJoinDefinition : StatementDefinition where
  name := "pairs"
  body :=
    [.text "SELECT ",
      .element "wildcard" [("table", "user"), ("as", "x")] [] 1,
      .text ", ",
      .element "wildcard" [("table", "nothing")] [] 1,
      .text ", ",
      .element "wildcard" [("table", "user"), ("alias", "y")] [] 1,
      .text " FROM user x, nothing, user y"]
  declared := some .select

def selfJoinToken : MarkerToken := ⟨"wc0f", by decide⟩

def selfJoinDirectives : List Directive :=
  [.text "SELECT ",
    .wildcard selfJoinToken ⟨0, selfJoinUser, "x"⟩,
    .text ", ",
    .wildcard selfJoinToken ⟨1, { name := "nothing" }, []⟩,
    .text ", ",
    .wildcard selfJoinToken ⟨2, selfJoinUser, "y"⟩,
    .text " FROM user x, nothing, user y"]

/-- A reply with the names of some sentinels in upper case. -/
def selfJoinReply : List ColumnDescriptor :=
  ["total", "WC0F_0_B", "id", "name", "wc0f_0_e", "wc0f_1_b", "wc0f_1_E",
    "wc0f_2_b", "id", "name", "Wc0F_2_e", "rest"].map
      fun name : String => ⟨name, .unknown⟩

def selfJoinSession : Session where
  supply := ⟨"0f", []⟩
  replies := [.columns selfJoinReply]

theorem compile_answers_selfJoin :
    (Catalog.load selfJoinReport.engine fun _ => true).1 =
        .ok selfJoinCompiler.catalog ∧
      ∃ (statement : Statement) (next : Session),
        selfJoinCompiler.compile selfJoinDefinition selfJoinSession =
            (.ok statement, next) ∧
          statement.columns.map (fun column =>
            column.source.map fun source =>
              (source.column.position, source.tableAlias)) =
            ([none, some (0, "x"), some (1, "x"), some (0, "y"),
              some (1, "y"), none] : List (Option (Nat × Text))) := by
  have loaded :
      (Catalog.load selfJoinReport.engine fun _ => true).1 =
        .ok selfJoinCompiler.catalog := by
    rfl
  have read :
      selfJoinCompiler.readBody { supply := selfJoinSession.supply }
          selfJoinDefinition.body =
        (.ok selfJoinDirectives,
          (selfJoinCompiler.readBody { supply := selfJoinSession.supply }
            selfJoinDefinition.body).2) := by
    rfl
  have isSelect :
      Verb.ofText (selfJoinCompiler.query selfJoinDirectives) =
        .ok .select := by
    cbv
  have countable :
      (Directive.wildcards selfJoinDirectives).length ≤
        10 ^ Numeral.longest :=
    Nat.le_trans (Nat.le_of_lt (Nat.lt_pow_self (by decide : 1 < 10)))
      (Nat.pow_le_pow_right (by decide) (by decide))
  have answers :
      Answers selfJoinCompiler.quote (Directive.Ordinary selfJoinDirectives)
        (Directive.wildcards selfJoinDirectives) selfJoinReply _ :=
    .wildcard [⟨"total", .unknown⟩] (by decide)
      ⟨"WC0F_0_B", .unknown⟩ (by decide +kernel)
      [⟨"id", .unknown⟩, ⟨"name", .unknown⟩] (by decide) rfl
      ⟨"wc0f_0_e", .unknown⟩ (by decide +kernel)
      (.wildcard [] (by decide)
        ⟨"wc0f_1_b", .unknown⟩ (by decide +kernel)
        [] (by decide) rfl
        ⟨"wc0f_1_E", .unknown⟩ (by decide +kernel)
        (.wildcard [] (by decide)
          ⟨"wc0f_2_b", .unknown⟩ (by decide +kernel)
          [⟨"id", .unknown⟩, ⟨"name", .unknown⟩] (by decide) rfl
          ⟨"Wc0F_2_e", .unknown⟩ (by decide +kernel)
          (.last [⟨"rest", .unknown⟩] (by decide))))
  rcases compile_answers loaded read countable isSelect (.inr rfl) rfl answers
    with ⟨⟨statement, next, compiled, columns_eq⟩, _, _⟩
  refine ⟨loaded, statement, next, compiled, ?_⟩
  rw [columns_eq]
  rfl

end Compiler

end AnnotatedSql
