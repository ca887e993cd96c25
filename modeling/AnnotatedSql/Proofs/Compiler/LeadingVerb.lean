import AnnotatedSql.Proofs.Compiler.ProbeTrace
import AnnotatedSql.Proofs.Text.Cutting
import AnnotatedSql.Proofs.Text.FirstWord

/-!
# Which queries have a verb

A query has the verb that its first letters spell.  Its first word may go on
behind them with digits and low lines, which are not looked at: a name that
begins with the letters of a verb and goes on like this is taken for the verb,
and so is a verb in front of a wildcard with nothing between them, since the
expansion of a wildcard begins with a digit.  Everything else is refused
before anything is executed, unless the first word is a verb.
-/

namespace AnnotatedSql

/-! ## Words -/

/-- What the words of a query are made of. -/
def CodePoint.isAsciiWord (point : CodePoint) : Bool :=
  point.isAsciiLetter || point.isAsciiDigit || point = '_'

namespace Text

/-- The word that a text begins with. -/
def leadingWord (text : Text) : Text :=
  text.takeWhile CodePoint.isAsciiWord

/-- The letters that a word begins with are those of its text. -/
@[simp]
theorem takeWhile_leadingWord (text : Text) :
    text.leadingWord.takeWhile CodePoint.isAsciiLetter =
      text.takeWhile CodePoint.isAsciiLetter := by
  rw [leadingWord, List.takeWhile_takeWhile]
  congr 1
  funext point
  cases letter : point.isAsciiLetter with
  | false => rfl
  | true => simp [CodePoint.isAsciiWord, letter]

end Text

namespace Verb

theorem isAsciiLetter_of_mem_name (verb : Verb) :
    ∀ point ∈ verb.name, point.isAsciiLetter = true := by
  cases verb <;> decide

theorem name_ne_nil (verb : Verb) : verb.name ≠ [] := by
  cases verb <;> decide

/-- A word is a verb in upper case exactly if it is the verb up to case. -/
theorem toAsciiUpper_eq_name_iff
    {word : Text}
    {verb : Verb} :
    word.toAsciiUpper = verb.name ↔ word.EqualUpToCase verb.name := by
  have upper : ∀ point ∈ verb.name,
      point.toAsciiUpper = point ∧
        point.toAsciiLower.toAsciiUpper = point := by
    cases verb <;> decide
  generalize verb.name = name at upper
  rw [Text.toAsciiUpper, Text.EqualUpToCase]
  induction name generalizing word with
  | nil => simp
  | cons letter name induction_hypothesis =>
      rw [List.forall_mem_cons] at upper
      cases word with
      | nil => simp
      | cons point word =>
          rw [List.map_cons, List.map_cons, List.map_cons, List.cons.injEq,
            List.cons.injEq]
          refine and_congr ?_ (induction_hypothesis upper.2)
          constructor
          · intro point_eq
            rw [← point_eq, CodePoint.toAsciiLower_toAsciiUpper]
          · intro lower_eq
            rcases CodePoint.eq_or_eq_toAsciiUpper lower_eq with rfl | rfl
            · exact upper.1.2
            · rw [upper.1.2, upper.1.1]

@[simp]
theorem ofName?_eq_some_iff
    {name : Text}
    {verb : Verb} :
    ofName? name = some verb ↔ name = verb.name := by
  rw [ofName?]
  constructor
  · intro found
    have matches_name := List.find?_some found
    exact (of_decide_eq_true matches_name).symm
  · rintro rfl
    cases verb <;> rfl

/-! ## The verb of a text -/

/-- A text begins with the letters of a verb, and with no letter behind
them. -/
def Leads (verb : Verb) (text : Text) : Prop :=
  ∃ letters tail,
    text.leadingWord = letters ++ tail ∧
      letters.EqualUpToCase verb.name ∧
      ∀ point ∈ tail.head?, point.isAsciiLetter = false

theorem leads_iff
    {verb : Verb}
    {text : Text} :
    verb.Leads text ↔
      Text.EqualUpToCase (text.takeWhile CodePoint.isAsciiLetter)
        verb.name := by
  rw [← Text.takeWhile_leadingWord]
  constructor
  · rintro ⟨letters, tail, word_eq, same, ends⟩
    have within := same.isAsciiLetter verb.isAsciiLetter_of_mem_name
    rw [word_eq, Text.takeWhile_append_of_run within ends]
    exact same
  · intro same
    refine ⟨_, text.leadingWord.dropWhile CodePoint.isAsciiLetter,
      List.takeWhile_append_dropWhile.symm, same, ?_⟩
    intro point first
    have stops := List.head?_dropWhile_not CodePoint.isAsciiLetter
      text.leadingWord
    rw [first] at stops
    simpa using stops

/-- A text leads with a verb if its first word is the verb, or goes on behind
the verb with a digit or a low line. -/
theorem leads_iff_leadingWord
    {verb : Verb}
    {text : Text} :
    verb.Leads text ↔
      text.leadingWord.EqualUpToCase verb.name ∨
        ∃ (letters : Text) (point : CodePoint) (rest : Text),
          text.leadingWord = letters ++ point :: rest ∧
            letters.EqualUpToCase verb.name ∧
            (point.isAsciiDigit = true ∨ point = '_') := by
  constructor
  · rintro ⟨letters, tail, word_eq, same, ends⟩
    cases tail with
    | nil =>
        rw [List.append_nil] at word_eq
        rw [word_eq]
        exact .inl same
    | cons point rest =>
        refine .inr ⟨letters, point, rest, word_eq, same, ?_⟩
        have inWord : point.isAsciiWord = true := by
          have member : point ∈ text.leadingWord := by
            rw [word_eq]
            exact List.mem_append_right _ List.mem_cons_self
          exact List.mem_takeWhile_imp member
        rw [CodePoint.isAsciiWord, ends point rfl, Bool.false_or,
          Bool.or_eq_true, decide_eq_true_eq] at inWord
        exact inWord
  · rintro (same | ⟨letters, point, rest, word_eq, same, noLetter⟩)
    · exact ⟨text.leadingWord, [], (List.append_nil _).symm, same, nofun⟩
    · refine ⟨letters, point :: rest, word_eq, same, ?_⟩
      rintro _ ⟨rfl⟩
      rcases noLetter with digit | rfl
      · exact CodePoint.not_isAsciiLetter_of_isAsciiDigit digit
      · rfl

section

variable
    {text : Text}
    (trimmed : text.trimStart = text)

include trimmed

theorem ofText_eq_ok_iff
    {verb : Verb} :
    ofText text = .ok verb ↔ verb.Leads text := by
  rw [leads_iff, ← toAsciiUpper_eq_name_iff, ofText, trimmed]
  split
  · next nothing =>
    rw [nothing]
    refine iff_of_false ?_ verb.name_ne_nil.symm
    intro impossible
    cases impossible
  · rw [← ofName?_eq_some_iff]
    split
    · next found => rw [found, Except.ok.injEq, Option.some_inj]
    · next notFound => simp [notFound]

/-- A text without a verb is refused for its first letters. -/
theorem ofText_eq_error
    (none_leads : ∀ verb : Verb, ¬ verb.Leads text) :
    ofText text =
      .error
        (match text.takeWhile CodePoint.isAsciiLetter with
        | [] => .noVerb text
        | first :: letters =>
            .unsupportedVerb (Text.toAsciiUpper (first :: letters))) := by
  rw [ofText, trimmed]
  split
  · next nothing => rw [nothing]
  · next notNothing =>
    split
    · next verb found =>
      refine absurd ?_ (none_leads verb)
      rw [leads_iff, ← toAsciiUpper_eq_name_iff]
      exact ofName?_eq_some_iff.1 found
    · cases letters_eq : text.takeWhile CodePoint.isAsciiLetter with
      | nil => exact absurd letters_eq notNothing
      | cons first letters => rfl

end

end Verb

/-! ## The verb of a compilation -/

namespace Compiler

/-- The verb that the outcome of a compilation shows, given that the body of
the definition was read: that of the statement, or the one that was not
declared.  A fault that is none of the statement comes from executing its
query, which is done for SELECT statements. -/
def verbShown? : Except CompileError Statement → Option Verb
  | .ok statement => some statement.verb
  | .error error =>
      match error.fault with
      | .statement (.declaredDifferently _ actual) => some actual
      | .statement _ => none
      | _ => some .select

variable
    {compiler : Compiler}
    {definition : StatementDefinition}
    {session : Session}
    {directives : List Directive}
    {draft : Draft}

theorem verbOf_eq_error_iff
    {declared : Option Verb}
    {query : Text}
    {error : StatementError} :
    verbOf declared query = .error error ↔
      Verb.ofText query = .error error ∨
        ∃ expected actual,
          declared = some expected ∧ Verb.ofText query = .ok actual ∧
            expected ≠ actual ∧
            error = .declaredDifferently expected actual := by
  unfold verbOf
  cases Verb.ofText query with
  | error refused => simp [bind, Except.bind]
  | ok actual =>
      cases declared with
      | none => simp [bind, Except.bind, pure, Except.pure]
      | some expected =>
          simp only [bind, Except.bind, pure, Except.pure]
          split_ifs with same
          · simp [same]
          · simp [same, @eq_comm _ error]

/-- What a text is refused for shows no verb. -/
theorem verbShown?_of_ofText
    {query : Text}
    {error : StatementError}
    (refused : Verb.ofText query = .error error)
    (name : Text) :
    verbShown? (.error ⟨.statement error, name⟩) = none := by
  unfold Verb.ofText at refused
  split at refused
  · cases refused
    rfl
  · split at refused
    · cases refused
    · cases refused
      rfl

/-- The outcome of a compilation shows the verb of the query. -/
theorem verbShown?_compile
    (read :
      compiler.readBody { supply := session.supply } definition.body =
        (.ok directives, draft)) :
    verbShown? (compiler.compile definition session).1 =
      (Verb.ofText (compiler.query directives)).toOption := by
  have same
      {directives' : List Directive}
      {draft' : Draft}
      (read' :
        compiler.readBody { supply := session.supply } definition.body =
          (.ok directives', draft')) :
      directives' = directives := by
    rw [read] at read'
    cases read'
    rfl
  have verb_found
      {verb : Verb}
      (verb_eq :
        verbOf definition.declared (compiler.query directives) = .ok verb) :
      (Verb.ofText (compiler.query directives)).toOption = some verb := by
    rw [(verbOf_eq_ok_iff.1 verb_eq).1]
    rfl
  rcases course_of_compile compiler definition session with
    ⟨left, executed, course, _⟩
  generalize (compiler.compile definition session).1 = outcome at course
  cases course with
  | unread unread =>
      rw [read] at unread
      cases unread
  | wrongVerb read' verb_eq =>
      obtain rfl := same read'
      rcases verbOf_eq_error_iff.1 verb_eq with
        refused | ⟨expected, actual, _, found, _, rfl⟩
      · rw [verbShown?_of_ofText refused, refused]
        rfl
      · rw [found]
        rfl
  | unprobed read' verb_eq _ =>
      obtain rfl := same read'
      exact (verb_found verb_eq).symm
  | refused read' verb_eq _ =>
      obtain rfl := same read'
      exact (verb_found verb_eq).symm
  | @unattributed _ _ _ error read' verb_eq _ _ =>
      obtain rfl := same read'
      rw [verb_found verb_eq]
      cases error <;> rfl
  | attributed read' verb_eq _ _ =>
      obtain rfl := same read'
      exact (verb_found verb_eq).symm

@[simp]
theorem trimStart_query
    (compiler : Compiler)
    (directives : List Directive) :
    (compiler.query directives).trimStart = compiler.query directives :=
  Text.trimStart_trim _

/--
A compilation has the verb that its query leads with, and none if the query
leads with none: then it fails for the letters that the query begins with, and
nothing is executed.  A query that leads with a verb either has it as its first
word, or has a first word that goes on behind it with a digit or a low line.
-/
theorem compile_verb_of_leading_letters
    (read :
      compiler.readBody { supply := session.supply } definition.body =
        (.ok directives, draft)) :
    let query := compiler.query directives
    (∀ verb,
      verbShown? (compiler.compile definition session).1 = some verb ↔
        verb.Leads query) ∧
    ((∀ verb : Verb, ¬ verb.Leads query) →
      compiler.compile definition session =
        (.error
          ⟨.statement
            (match query.takeWhile CodePoint.isAsciiLetter with
            | [] => .noVerb query
            | first :: letters =>
                .unsupportedVerb (Text.toAsciiUpper (first :: letters))),
            definition.name⟩,
          { session with supply := draft.supply })) ∧
    ∀ verb : Verb,
      verb.Leads query ↔
        query.leadingWord.EqualUpToCase verb.name ∨
          ∃ (letters : Text) (point : CodePoint) (rest : Text),
            query.leadingWord = letters ++ point :: rest ∧
              letters.EqualUpToCase verb.name ∧
              (point.isAsciiDigit = true ∨ point = '_') := by
  have trimmed := trimStart_query compiler directives
  refine ⟨?_, ?_, ?_⟩
  · intro verb
    rw [verbShown?_compile read, ← Verb.ofText_eq_ok_iff trimmed]
    cases Verb.ofText (compiler.query directives) <;>
      simp [Except.toOption]
  · intro none_leads
    exact compile_of_wrongVerb read
      (verbOf_eq_error_iff.2 (.inl (Verb.ofText_eq_error trimmed none_leads)))
  · intro verb
    exact Verb.leads_iff_leadingWord

/-- A verb in front of a wildcard, with nothing between them. -/
def gluedDefinition : StatementDefinition where
  name := "glued"
  body :=
    [.text "SELECT",
      .element "wildcard" [("table", "user")] [] 1,
      .text " FROM user"]
  declared := none

def gluedDirectives : List Directive :=
  [.text "SELECT", .wildcard selfJoinToken ⟨0, selfJoinUser, []⟩,
    .text " FROM user"]

def gluedSession : Session where
  supply := ⟨"0f", []⟩

theorem readBody_glued :
    ∃ draft,
      selfJoinCompiler.readBody { supply := gluedSession.supply }
        gluedDefinition.body = (.ok gluedDirectives, draft) :=
  ⟨_, rfl⟩

theorem leadingWord_glued :
    (selfJoinCompiler.query gluedDirectives).leadingWord = "SELECT1" := by
  cbv

/-- The digit that the expansion begins with belongs to the first word. -/
theorem compile_verb_of_leading_letters_glued :
    (∃ draft,
      selfJoinCompiler.readBody { supply := gluedSession.supply }
        gluedDefinition.body = (.ok gluedDirectives, draft)) ∧
    (selfJoinCompiler.query gluedDirectives).leadingWord = "SELECT1" ∧
    verbShown? (selfJoinCompiler.compile gluedDefinition gluedSession).1 =
      some .select := by
  rcases readBody_glued with ⟨draft, read⟩
  refine ⟨⟨draft, read⟩, leadingWord_glued, ?_⟩
  rcases compile_verb_of_leading_letters read with ⟨shown, _, leads⟩
  rw [shown, leads, leadingWord_glued]
  exact .inr ⟨"SELECT", '1', [], rfl, rfl, .inl rfl⟩

/-- The verb is not always the first word: `SELECT1` is taken for a verb. -/
theorem not_leadingWord_of_verbShown :
    ¬ ∀ (compiler : Compiler) (definition : StatementDefinition)
        (session : Session) (directives : List Directive) (draft : Draft)
        (verb : Verb),
      compiler.readBody { supply := session.supply } definition.body =
        (.ok directives, draft) →
      (verbShown? (compiler.compile definition session).1 = some verb ↔
        (compiler.query directives).leadingWord.EqualUpToCase
          verb.name) := by
  intro law
  rcases readBody_glued with ⟨draft, read⟩
  have isSelect :
      Verb.ofText (selfJoinCompiler.query gluedDirectives) = .ok .select := by
    cbv
  have firstWord := (law _ _ _ _ _ .select read).1 (by
    rw [verbShown?_compile read, isSelect]
    rfl)
  rw [leadingWord_glued] at firstWord
  exact absurd firstWord (by decide)

end Compiler

end AnnotatedSql
