import AnnotatedSql.Markup.Reference
import AnnotatedSql.Markup.Token
import AnnotatedSql.Text.Blank
import AnnotatedSql.Text.Word

/-!
# Reading tokens

A lexer stands at a place of a document, in the content or inside a start tag.
In the content, comments, declarations, CDATA sections, close tags and start
tags are recognised by how they begin, in this order, and everything else is a
run of text: a `<` that begins none of them is text too, so comparisons need no
escaping.  Inside a start tag there are names, equals signs, strings and the two
ends of the tag, with space between them.

`Lexer.advance` reads one piece of the document, which may be a token or
something without one, and takes at least one code point off the document unless
it stands at the end or in front of a fault. `Lexer.next` reads up to the next
token, and `Lexer.run` all that are left.
-/

namespace AnnotatedSql.Markup

/-- Where a lexer stands: in the content of a document or inside a start tag. -/
inductive LexerMode where
  | content
  | startTag
deriving DecidableEq

/-- A place in a document: what is still to be read, in which mode, and the
current line. -/
structure Lexer where
  rest : Text := []
  mode : LexerMode := .content
  line : Nat := 1

/-- What a lexer finds at its place, with the lexer behind it. -/
inductive Reading where
  | finished
  | skipped (next : Lexer)
  | token (token : Token) (next : Lexer)
  | failed (error : Error) (next : Lexer)

/-- The lexer behind a piece of the document, unless the piece is a fault or
missing. -/
def Reading.next? : Reading → Option Lexer
  | .skipped next => some next
  | .token _ next => some next
  | .finished => none
  | .failed _ _ => none

/-! ## Words -/

/-- A letter or low line, which may begin a name. -/
def isNameStart (point : CodePoint) : Bool :=
  point.isAsciiLetter || point = '_'

/-- A code point that may stand inside a name. -/
def isNamePart (point : CodePoint) : Bool :=
  point.isWord || point = '.' || point = ':' || point = '-'

/-- The longest name at the start of a text, and what follows it. -/
def nameAtStart? : Text → Option (Text × Text)
  | [] => none
  | first :: text =>
      if isNameStart first then
        some (first :: text.takeWhile isNamePart, text.dropWhile isNamePart)
      else
        none

/-- What follows a `<` begins markup, so that the `<` is not text. -/
def beginsMarkup (text : Text) : Bool :=
  (text.head?.any fun first =>
      isNameStart first || first = '/' || first = '?') ||
    (Text.after? "!--" text).isSome || (Text.after? "![CDATA[" text).isSome

/-- The longest run of text without markup, and what follows it. -/
def textRun : Text → Text × Text
  | [] => ([], [])
  | first :: text =>
      if first = '<' ∧ beginsMarkup text = true then
        ([], first :: text)
      else
        (first :: (textRun text).1, (textRun text).2)

/-- The inside of a section between two fixed words, and what follows the
section. -/
def sectionAtStart? (opening closing text : Text) : Option (Text × Text) :=
  (Text.after? opening text).bind (Text.cutAtFirst? closing)

/-- The name of a complete close tag, and what follows the tag. -/
def closeTagAtStart? (text : Text) : Option (Text × Text) := do
  let inside ← Text.after? "</" text
  let (name, afterName) ← nameAtStart? (Text.trimStart inside)
  let rest ← Text.after? ">" (Text.trimStart afterName)
  return (name, rest)

/-! ## One step -/

namespace Lexer

/-- The token of decoded text, or the fault of a reference in it. -/
def decoded
    (symbol : Text → Symbol)
    (value : Text)
    (line : Nat)
    (next : Lexer) : Reading :=
  match decodeReferences value with
  | .ok decoded => .token ⟨symbol decoded, line⟩ next
  | .error error => .failed error next

/-- One piece of content.  Line feeds inside a close tag are not counted. -/
def advanceContent
    (line : Nat)
    (text : Text) : Reading :=
  match text with
  | [] => .finished
  | _ :: _ =>
      match sectionAtStart? "<!--" "-->" text with
      | some (inside, rest) =>
          .skipped ⟨rest, .content, line + inside.lineFeeds⟩
      | none =>
      match sectionAtStart? "<?" "?>" text with
      | some (inside, rest) =>
          .skipped ⟨rest, .content, line + inside.lineFeeds⟩
      | none =>
      match sectionAtStart? "<![CDATA[" "]]>" text with
      | some (inside, rest) =>
          .token ⟨.text inside, line⟩ ⟨rest, .content, line + inside.lineFeeds⟩
      | none =>
      match closeTagAtStart? text with
      | some (name, rest) =>
          .token ⟨.closeTag name, line⟩ ⟨rest, .content, line⟩
      | none =>
      match (Text.after? "<" text).bind nameAtStart? with
      | some (name, rest) =>
          .token ⟨.openTag name, line⟩ ⟨rest, .startTag, line⟩
      | none =>
      match textRun text with
      | ([], _) =>
          .failed (.illegalMarkup (text.take 10) line) ⟨text, .content, line⟩
      | (first :: run, rest) =>
          decoded .text (first :: run) line
            ⟨rest, .content, line + Text.lineFeeds (first :: run)⟩

/-- The inside of a string and what follows it, given the delimiter and what
follows that. -/
def stringAfter?
    (delimiter : CodePoint)
    (text : Text) : Option (Text × Text) :=
  if delimiter = '"' ∨ delimiter = '\'' then
    Text.cutAtFirst? [delimiter] text
  else
    none

/-- One piece of a start tag.  A fault leaves the start tag. -/
def advanceStartTag
    (line : Nat)
    (text : Text) : Reading :=
  match text with
  | [] => .finished
  | first :: text' =>
      if first = ' ' ∨ first = '\t' ∨ first = '\r' then
        .skipped ⟨text', .startTag, line⟩
      else if first = '\n' then .skipped ⟨text', .startTag, line + 1⟩
      else
      match Text.after? "/>" text with
      | some rest => .token ⟨.selfClose, line⟩ ⟨rest, .content, line⟩
      | none =>
      if first = '>' then .token ⟨.tagEnd, line⟩ ⟨text', .content, line⟩
      else if first = '=' then .token ⟨.equals, line⟩ ⟨text', .startTag, line⟩
      else
      match nameAtStart? text with
      | some (name, rest) => .token ⟨.name name, line⟩ ⟨rest, .startTag, line⟩
      | none =>
      match stringAfter? first text' with
      | some (inside, rest) =>
          decoded .string inside line ⟨rest, .startTag, line + inside.lineFeeds⟩
      | none => .failed (.illegalCharacter first line) ⟨text, .content, line⟩

/-- One piece of the document. -/
def advance (lexer : Lexer) : Reading :=
  match lexer.mode with
  | .content => advanceContent lexer.line lexer.rest
  | .startTag => advanceStartTag lexer.line lexer.rest

end Lexer

/-! ## What is read gets shorter -/

theorem length_lt_of_nameAtStart?
    {text name rest : Text}
    (found : nameAtStart? text = some (name, rest)) :
    rest.length < text.length := by
  cases text with
  | nil => simp [nameAtStart?] at found
  | cons first text =>
      simp only [nameAtStart?] at found
      split at found
      · obtain ⟨_, rfl⟩ := Prod.mk.inj (Option.some.inj found)
        have shorter :=
          (List.dropWhile_sublist isNamePart (l := text)).length_le
        simp only [List.length_cons]
        omega
      · simp at found

theorem length_textRun (text : Text) :
    (textRun text).1.length + (textRun text).2.length = text.length := by
  induction text with
  | nil => rfl
  | cons first text induction_hypothesis =>
      simp only [textRun]
      split
      · simp
      · simp only [List.length_cons]
        omega

theorem length_lt_of_sectionAtStart?
    {opening closing text inside rest : Text}
    (found : sectionAtStart? opening closing text = some (inside, rest))
    (nonempty : 0 < opening.length) : rest.length < text.length := by
  simp only [sectionAtStart?, Option.bind_eq_some_iff] at found
  obtain ⟨body, body_found, cut⟩ := found
  have text_length := congrArg List.length (Text.append_of_after? body_found)
  have body_length := congrArg List.length (Text.append_of_cutAtFirst? cut)
  simp only [List.length_append] at text_length body_length
  omega

theorem length_lt_of_closeTagAtStart?
    {text name rest : Text}
    (found : closeTagAtStart? text = some (name, rest)) :
    rest.length < text.length := by
  simp only [closeTagAtStart?, bind, Option.bind_eq_some_iff, Prod.exists, pure,
    Option.some.injEq, Prod.mk.injEq] at found
  obtain ⟨inside, inside_found, name', afterName, name_found, rest', rest_found,
    rfl, rfl⟩ := found
  have text_length := congrArg List.length (Text.append_of_after? inside_found)
  have name_length := length_lt_of_nameAtStart? name_found
  have rest_length := congrArg List.length (Text.append_of_after? rest_found)
  have first_trim :=
    (List.dropWhile_sublist CodePoint.isBlank (l := inside)).length_le
  have second_trim :=
    (List.dropWhile_sublist CodePoint.isBlank (l := afterName)).length_le
  simp only [List.length_append, Text.trimStart] at *
  omega

namespace Lexer

theorem next?_decoded
    {symbol : Text → Symbol}
    {value : Text}
    {line : Nat}
    {next next' : Lexer}
    (found : (decoded symbol value line next).next? = some next') :
    next' = next := by
  unfold decoded at found
  split at found <;> simp [Reading.next?] at found
  exact found.symm

theorem length_lt_of_advanceContent
    {line : Nat}
    {text : Text}
    {next : Lexer}
    (found : (advanceContent line text).next? = some next) :
    next.rest.length < text.length := by
  unfold advanceContent at found
  split at found
  · simp [Reading.next?] at found
  · next first text' =>
    split at found
    · next inside rest comment =>
      obtain rfl := Option.some.inj found
      exact length_lt_of_sectionAtStart? comment (by decide)
    split at found
    · next inside rest declaration =>
      obtain rfl := Option.some.inj found
      exact length_lt_of_sectionAtStart? declaration (by decide)
    split at found
    · next inside rest characterData =>
      obtain rfl := Option.some.inj found
      exact length_lt_of_sectionAtStart? characterData (by decide)
    split at found
    · next name rest closeTag =>
      obtain rfl := Option.some.inj found
      exact length_lt_of_closeTagAtStart? closeTag
    split at found
    · next name rest openTag =>
      obtain rfl := Option.some.inj found
      obtain ⟨body, body_found, name_found⟩ := Option.bind_eq_some_iff.1 openTag
      have body_length :=
        congrArg List.length (Text.append_of_after? body_found)
      have name_length := length_lt_of_nameAtStart? name_found
      simp only [List.length_append] at body_length
      simp only
      omega
    split at found
    · simp [Reading.next?] at found
    · next first' run rest run_eq =>
      obtain rfl := next?_decoded found
      have lengths := length_textRun (first :: text')
      rw [run_eq] at lengths
      simp only [List.length_cons] at lengths ⊢
      omega

theorem length_lt_of_advanceStartTag
    {line : Nat}
    {text : Text}
    {next : Lexer}
    (found : (advanceStartTag line text).next? = some next) :
    next.rest.length < text.length := by
  unfold advanceStartTag at found
  split at found
  · simp [Reading.next?] at found
  · next first text' =>
    split at found
    · obtain rfl := Option.some.inj found
      exact Nat.lt_succ_self _
    split at found
    · obtain rfl := Option.some.inj found
      exact Nat.lt_succ_self _
    split at found
    · next rest selfClose =>
      obtain rfl := Option.some.inj found
      have lengths := congrArg List.length (Text.append_of_after? selfClose)
      simp only [List.length_append, Text.ofString] at lengths
      simp only [List.length_cons] at lengths ⊢
      simp at lengths
      omega
    split at found
    · obtain rfl := Option.some.inj found
      exact Nat.lt_succ_self _
    split at found
    · obtain rfl := Option.some.inj found
      exact Nat.lt_succ_self _
    split at found
    · next name rest name_found =>
      obtain rfl := Option.some.inj found
      exact length_lt_of_nameAtStart? name_found
    split at found
    · next inside rest string_found =>
      obtain rfl := next?_decoded found
      unfold stringAfter? at string_found
      split at string_found
      · have lengths :=
          congrArg List.length (Text.append_of_cutAtFirst? string_found)
        simp only [List.length_append, List.length_cons] at lengths ⊢
        omega
      · simp at string_found
    · simp [Reading.next?] at found

/-- A piece that is neither a fault nor missing takes at least one code point
off the document. -/
theorem length_lt_of_advance
    {lexer next : Lexer}
    (found : lexer.advance.next? = some next) :
    next.rest.length < lexer.rest.length := by
  unfold advance at found
  split at found
  · exact length_lt_of_advanceContent found
  · exact length_lt_of_advanceStartTag found

/-! ## Whole documents -/

/-- The next token, fault or end, past everything without a token. -/
def next (lexer : Lexer) : Reading :=
  match _ : lexer.advance with
  | .skipped following => following.next
  | .finished => .finished
  | .token token following => .token token following
  | .failed error following => .failed error following
termination_by lexer.rest.length
decreasing_by exact length_lt_of_advance (by simp [*, Reading.next?])

/-- All tokens up to the end or the first fault, that fault, and the lexer
behind them. -/
def run (lexer : Lexer) : List Token × Option Error × Lexer :=
  match _ : lexer.advance with
  | .skipped following => following.run
  | .finished => ([], none, lexer)
  | .token token following =>
      let (tokens, fault, last) := following.run
      (token :: tokens, fault, last)
  | .failed error following => ([], some error, following)
termination_by lexer.rest.length
decreasing_by all_goals exact length_lt_of_advance (by simp [*, Reading.next?])

/-- A lexer in the mode and on the line in which documents begin, whatever is
left to read. -/
def reset (lexer : Lexer) : Lexer :=
  { lexer with mode := .content, line := 1 }

/-- A lexer with a document to read, in the mode and on the line where it
stands. -/
def input
    (lexer : Lexer)
    (document : Text) : Lexer :=
  { lexer with rest := document }

/-- A lexer at the start of a document, wherever it stood before. -/
def load
    (lexer : Lexer)
    (document : Text) : Lexer :=
  lexer.reset.input document

/-- The tokens of a document, or its first fault, with the lexer left for the
next document. -/
def tokenize
    (lexer : Lexer)
    (document : Text) : Except Error (List Token) × Lexer :=
  match (lexer.load document).run with
  | (tokens, none, last) => (.ok tokens, last)
  | (_, some fault, last) => (.error fault, last)

end Lexer

end AnnotatedSql.Markup
