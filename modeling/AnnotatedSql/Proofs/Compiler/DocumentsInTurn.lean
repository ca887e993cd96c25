import AnnotatedSql.Compiler.Files

/-!
# Documents in turn

One parser reads all documents of a run, one after another, and keeps its
lexer from one to the next.  A document that fails leaves the lexer wherever
the fault was: inside a start tag, in the middle of the text, on any line.
None of this is carried over, since a lexer is brought back to the start
before it is given a document.  So the documents of a run are read as if each
had a parser of its own.
-/

namespace AnnotatedSql

open AnnotatedSql.Markup

/-! ## Steps in turn -/

section

variable
    {State Item Outcome : Type}

/-- The outcomes of items in turn, each from the state that the one before it
has left, and the state behind the last. -/
def inTurn
    (step : State → Item → Outcome × State)
    (state : State) : List Item → List Outcome × State
  | [] => ([], state)
  | item :: items =>
      let (outcome, next) := step state item
      let (outcomes, last) := inTurn step next items
      (outcome :: outcomes, last)

@[simp]
theorem inTurn_cons
    (step : State → Item → Outcome × State)
    (state : State)
    (item : Item)
    (items : List Item) :
    inTurn step state (item :: items) =
      ((step state item).1 :: (inTurn step (step state item).2 items).1,
        (inTurn step (step state item).2 items).2) :=
  rfl

@[simp]
theorem length_inTurn
    (step : State → Item → Outcome × State)
    (state : State)
    (items : List Item) :
    (inTurn step state items).1.length = items.length := by
  induction items generalizing state with
  | nil => rfl
  | cons item items induction_hypothesis =>
      rw [inTurn_cons, List.length_cons, List.length_cons,
        induction_hypothesis]

/-- Steps whose outcomes do not depend on the state have the outcomes that
they have from any one state. -/
theorem fst_inTurn_eq_map
    {step : State → Item → Outcome × State}
    {outcome : Item → Outcome}
    (independent : ∀ state item, (step state item).1 = outcome item)
    (state : State)
    (items : List Item) :
    (inTurn step state items).1 = items.map outcome := by
  induction items generalizing state with
  | nil => rfl
  | cons item items induction_hypothesis =>
      rw [inTurn_cons, List.map_cons, independent, induction_hypothesis]

end

/-! ## Lexers and parsers -/

namespace Markup

/-- A lexer that is brought back to the start and given a document does not
show what it has read before. -/
theorem Lexer.load_eq
    (lexer : Lexer)
    (document : Text) :
    lexer.load document = Lexer.load {} document :=
  rfl

theorem Lexer.tokenize_eq
    (lexer : Lexer)
    (document : Text) :
    lexer.tokenize document = Lexer.tokenize {} document := by
  rw [tokenize, tokenize, load_eq]

theorem Parser.parse_eq
    (parser : Parser)
    (document : Text) :
    parser.parse document = Parser.parse {} document := by
  have start_eq :
      parser.lexer.reset.input document = Lexer.load {} document :=
    Lexer.load_eq parser.lexer document
  rw [parse, parse, start_eq]
  rfl

end Markup

/-! ## Compilations -/

/-- A session with a parser that has not read anything yet. -/
def Session.withFreshParser (session : Session) : Session :=
  { session with parser := {} }

theorem Session.withFreshParser_of_parser
    (session : Session)
    (parser : Parser) :
    ({ session with parser := parser } : Session).withFreshParser =
      session.withFreshParser :=
  rfl

@[simp]
theorem Session.definitions_withFreshParser
    (session : Session)
    (document : Text) :
    session.withFreshParser.definitions document =
      session.definitions document := by
  rw [definitions, definitions, withFreshParser, Parser.parseStatements,
    Parser.parseStatements, Parser.parse_eq session.parser]

/-- The definitions of a document that is read are those of its nodes. -/
theorem Session.definitions_of_parse
    {session : Session}
    {document : Text}
    {nodes : List Markup.Node}
    {definitions : List StatementDefinition}
    (parsed : (session.parser.parse document).1 = .ok nodes)
    (given : StatementDefinition.ofNodes [] nodes = .ok definitions) :
    session.definitions document =
      (.ok definitions,
        { session with parser := (session.parser.parse document).2 }) := by
  rw [Session.definitions, Markup.Parser.parseStatements]
  generalize session.parser.parse document = reading at parsed ⊢
  rcases reading with ⟨outcome, parser⟩
  cases parsed
  simp only [given]
  rfl

namespace Compiler

variable
    {compiler : Compiler}
    {session session' : Session}

/-- A document is compiled as with a parser of its own. -/
@[simp]
theorem compileDocument_withFreshParser
    (compiler : Compiler)
    (document : Text)
    (session : Session) :
    compiler.compileDocument document session.withFreshParser =
      compiler.compileDocument document session := by
  rw [compileDocument, compileDocument, Session.definitions_withFreshParser]

/-- A file is compiled alike in sessions that differ in what their parsers
have read before, and leaves such sessions. -/
theorem compileFile_congr
    (same : session'.withFreshParser = session.withFreshParser)
    (files : FileTree)
    (path : Path) :
    (compiler.compileFile files path session').1 =
        (compiler.compileFile files path session).1 ∧
      (compiler.compileFile files path session').2.withFreshParser =
        (compiler.compileFile files path session).2.withFreshParser := by
  unfold compileFile
  cases files.readText path with
  | error error => exact ⟨rfl, same⟩
  | ok document =>
      have compiled_eq :
          compiler.compileDocument document session' =
            compiler.compileDocument document session := by
        rw [← compileDocument_withFreshParser, same,
          compileDocument_withFreshParser]
      simp only [compiled_eq, and_self]

/-- The same holds for any number of files, since it holds for each. -/
theorem compileEntries_congr
    (same : session'.withFreshParser = session.withFreshParser)
    (files : FileTree)
    (path : Path)
    (compiled : Dictionary (List Statement))
    (names : List Text) :
    (compiler.compileEntries files path compiled session' names).1 =
        (compiler.compileEntries files path compiled session names).1 ∧
      (compiler.compileEntries files path compiled session'
          names).2.withFreshParser =
        (compiler.compileEntries files path compiled session
          names).2.withFreshParser := by
  induction names generalizing compiled session session' with
  | nil => exact ⟨rfl, same⟩
  | cons name names induction_hypothesis =>
      rw [compileEntries, compileEntries]
      have step := @compileFile_congr compiler session session' same files
        (path.entry name)
      generalize compiler.compileFile files (path.entry name) session = left
        at step ⊢
      generalize compiler.compileFile files (path.entry name) session' = left'
        at step ⊢
      rcases left with ⟨outcome, next⟩
      rcases left' with ⟨outcome', next'⟩
      rcases step with ⟨outcome_eq, same⟩
      cases outcome_eq
      cases outcome with
      | error error => exact ⟨rfl, same⟩
      | ok statements =>
          exact induction_hypothesis same
            (compiled.put (Path.stem name) statements)

theorem compileDirectory_congr
    (same : session'.withFreshParser = session.withFreshParser)
    (files : FileTree)
    (path : Path) :
    (compiler.compileDirectory files path session').1 =
        (compiler.compileDirectory files path session).1 ∧
      (compiler.compileDirectory files path session').2.withFreshParser =
        (compiler.compileDirectory files path session).2.withFreshParser := by
  unfold compileDirectory
  split
  · exact compileEntries_congr same ..
  · exact ⟨rfl, same⟩

end Compiler

/-! ## Nothing is carried over -/

/--
Documents in turn are tokenized, parsed and compiled as if each had a lexer or
a parser of its own, whatever the lexer, the parser or the session has been
through before, and however the documents before have failed.  A directory of
files is compiled alike with any other parser in the session, and so is what
is left of it after any of its files.
-/
theorem outcomes_inTurn :
    (∀ (lexer : Lexer) (documents : List Text),
      (inTurn Lexer.tokenize lexer documents).1 =
        documents.map fun document => (Lexer.tokenize {} document).1) ∧
    (∀ (parser : Parser) (documents : List Text),
      (inTurn Parser.parse parser documents).1 =
        documents.map fun document => (Parser.parse {} document).1) ∧
    ∀ compiler : Compiler,
      (∀ (session : Session) (documents : List Text),
        inTurn (fun session document =>
            compiler.compileDocument document session.withFreshParser)
            session documents =
          inTurn (fun session document =>
            compiler.compileDocument document session) session documents) ∧
      (∀ (files : FileTree) (path : Path)
          (compiled : Dictionary (List Statement)) (names : List Text)
          (session : Session) (parser : Parser),
        (compiler.compileEntries files path compiled
            { session with parser := parser } names).1 =
          (compiler.compileEntries files path compiled session names).1) ∧
      ∀ (files : FileTree) (path : Path) (session : Session)
          (parser : Parser),
        (compiler.compileDirectory files path
            { session with parser := parser }).1 =
          (compiler.compileDirectory files path session).1 := by
  refine ⟨?_, ?_, ?_⟩
  · intro lexer documents
    refine fst_inTurn_eq_map ?_ lexer documents
    intro lexer document
    rw [Lexer.tokenize_eq]
  · intro parser documents
    refine fst_inTurn_eq_map ?_ parser documents
    intro parser document
    rw [Parser.parse_eq]
  · intro compiler
    refine ⟨?_, ?_, ?_⟩
    · intro session documents
      simp
    · intro files path compiled names session parser
      exact (Compiler.compileEntries_congr
        (session.withFreshParser_of_parser parser) files path compiled names).1
    · intro files path session parser
      exact (Compiler.compileDirectory_congr
        (session.withFreshParser_of_parser parser) files path).1

end AnnotatedSql
