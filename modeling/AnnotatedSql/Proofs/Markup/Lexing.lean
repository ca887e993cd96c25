import AnnotatedSql.Markup.Lexer
import AnnotatedSql.Proofs.Markup.Escape
import AnnotatedSql.Proofs.Text.Cutting
import AnnotatedSql.Proofs.Text.LetterCase

/-!
# Reading a document piece by piece

`Lexer.Reads` says which tokens a lexer reads on its way from one place of a
document to a later one.  What follows the piece is always part of the
statement, because where a name or a text ends depends on it; so the lemmas
for the single pieces compose, and a document that is put together from
pieces is read as the tokens of its pieces.
-/

namespace AnnotatedSql

namespace Markup

/-! ## From one place to a later one -/

namespace Lexer

/-- The tokens that are read from one place of a document to a later one. -/
inductive Reads : Lexer → List Token → Lexer → Prop where
  | here (lexer : Lexer) : Reads lexer [] lexer
  | skip
      {lexer following last : Lexer}
      {tokens : List Token}
      (step : lexer.advance = .skipped following)
      (others : Reads following tokens last) :
      Reads lexer tokens last
  | token
      {lexer following last : Lexer}
      {token : Token}
      {tokens : List Token}
      (step : lexer.advance = .token token following)
      (others : Reads following tokens last) :
      Reads lexer (token :: tokens) last

variable
  {lexer middle last : Lexer}
  {tokens tokens' : List Token}

theorem Reads.trans
    (first : Reads lexer tokens middle)
    (second : Reads middle tokens' last) :
    Reads lexer (tokens ++ tokens') last := by
  induction first with
  | here => exact second
  | skip step others induction_hypothesis =>
      exact .skip step (induction_hypothesis second)
  | token step others induction_hypothesis =>
      exact .token step (induction_hypothesis second)

theorem Reads.of_skipped
    (step : lexer.advance = .skipped middle) :
    Reads lexer [] middle :=
  .skip step (.here middle)

theorem Reads.of_token
    {token : Token}
    (step : lexer.advance = .token token middle) :
    Reads lexer [token] middle :=
  .token step (.here middle)

/-- A run begins with what is read up to any later place. -/
theorem Reads.run_eq
    (read : Reads lexer tokens last) :
    lexer.run = (tokens ++ last.run.1, last.run.2) := by
  induction read with
  | here => rfl
  | skip step others induction_hypothesis =>
      rw [run]
      split <;> simp_all
  | token step others induction_hypothesis =>
      rw [run]
      split <;> simp_all

theorem run_of_finished
    (step : lexer.advance = .finished) :
    lexer.run = ([], none, lexer) := by
  rw [run]
  split <;> simp_all

theorem run_of_failed
    {error : Error}
    (step : lexer.advance = .failed error middle) :
    lexer.run = ([], some error, middle) := by
  rw [run]
  split <;> simp_all

/-- A document that is read to its end has the tokens that were read, and
leaves the lexer there. -/
theorem Reads.tokenize_ending
    {document : Text}
    {line : Nat}
    (read : Reads ⟨document, .content, 1⟩ tokens ⟨[], .content, line⟩) :
    lexer.tokenize document = (.ok tokens, ⟨[], .content, line⟩) := by
  have run_eq : (lexer.load document).run = _ := read.run_eq
  have finished : (⟨[], .content, line⟩ : Lexer).run =
      ([], none, ⟨[], .content, line⟩) :=
    run_of_finished rfl
  rw [finished, List.append_nil] at run_eq
  rw [tokenize, run_eq]

theorem Reads.tokenize_eq
    {document : Text}
    {line : Nat}
    (read : Reads ⟨document, .content, 1⟩ tokens ⟨[], .content, line⟩) :
    (lexer.tokenize document).1 = .ok tokens := by
  rw [read.tokenize_ending]

/-- What is read in a number of steps, or in fewer at the end of a document
or in front of a fault, and the place behind it. -/
def readFor : Nat → Lexer → List Token × Lexer
  | 0, lexer => ([], lexer)
  | steps + 1, lexer =>
      match lexer.advance with
      | .token token following =>
          let (tokens, last) := readFor steps following
          (token :: tokens, last)
      | .skipped following => readFor steps following
      | .finished | .failed _ _ => ([], lexer)

theorem reads_readFor
    (steps : Nat)
    (lexer : Lexer) :
    Reads lexer (readFor steps lexer).1 (readFor steps lexer).2 := by
  induction steps generalizing lexer with
  | zero => exact .here lexer
  | succ steps induction_hypothesis =>
      rw [readFor]
      split
      · next step => exact .token step (induction_hypothesis _)
      · next step => exact .skip step (induction_hypothesis _)
      · exact .here lexer
      · exact .here lexer

end Lexer

/-! ## Names and space -/

/-- A letter or low line, followed by parts of a name. -/
def IsName : Text → Prop
  | [] => False
  | first :: rest =>
      isNameStart first = true ∧ ∀ point ∈ rest, isNamePart point = true

/-- Space that may stand in a tag. -/
def IsSpace (text : Text) : Prop :=
  ∀ point ∈ text, point = ' ' ∨ point = '\t' ∨ point = '\r' ∨ point = '\n'

/-- A text that does not continue a name in front of it. -/
def EndsName (text : Text) : Prop :=
  ∀ point ∈ text.head?, isNamePart point = false

theorem nameAtStart?_append
    {name rest : Text}
    (isName : IsName name)
    (ends : EndsName rest) :
    nameAtStart? (name ++ rest) = some (name, rest) := by
  cases name with
  | nil => exact isName.elim
  | cons first name =>
      rcases isName with ⟨starts, parts⟩
      have taken : rest.takeWhile isNamePart = [] := by
        cases rest with
        | nil => rfl
        | cons point rest => simp [ends point rfl]
      have dropped : rest.dropWhile isNamePart = rest := by
        cases rest with
        | nil => rfl
        | cons point rest => simp [ends point rfl]
      rw [List.cons_append, nameAtStart?, if_pos starts,
        List.takeWhile_append_of_pos parts, List.dropWhile_append_of_pos parts,
        taken, dropped, List.append_nil]

theorem EndsName.of_mark
    {mark : CodePoint}
    (notPart : isNamePart mark = false)
    (text : Text) :
    EndsName (mark :: text) := by
  rintro point ⟨rfl⟩
  exact notPart

theorem EndsName.of_space
    {space : Text}
    (isSpace : IsSpace space)
    (nonempty : space ≠ [])
    (text : Text) :
    EndsName (space ++ text) := by
  cases space with
  | nil => exact absurd rfl nonempty
  | cons first space =>
      refine .of_mark ?_ (space ++ text)
      rcases isSpace first List.mem_cons_self with rfl | rfl | rfl | rfl <;>
        decide

theorem EndsName.space_append
    {space rest : Text}
    (isSpace : IsSpace space)
    (ends : EndsName rest) :
    EndsName (space ++ rest) := by
  by_cases isEmpty : space = []
  · rw [isEmpty, List.nil_append]
    exact ends
  · exact .of_space isSpace isEmpty rest

/-- A name begins with none of the marks of a tag. -/
theorem ne_of_isNameStart
    {point mark : CodePoint}
    (starts : isNameStart point = true)
    (refused : isNameStart mark = false) :
    point ≠ mark := by
  rintro rfl
  rw [starts] at refused
  cases refused

theorem isBlank_eq_false_of_isNameStart
    {point : CodePoint}
    (starts : isNameStart point = true) :
    point.isBlank = false := by
  rw [isNameStart, Bool.or_eq_true, decide_eq_true_eq] at starts
  rcases starts with isLetter | rfl
  · exact CodePoint.isBlank_eq_false_of_isAsciiLetter isLetter
  · decide

theorem trimStart_name_append
    {name : Text}
    (isName : IsName name)
    (rest : Text) :
    Text.trimStart (name ++ rest) = name ++ rest := by
  cases name with
  | nil => exact isName.elim
  | cons first name =>
      rw [Text.trimStart, List.cons_append, List.dropWhile_cons,
        isBlank_eq_false_of_isNameStart isName.1]
      rfl

theorem trimStart_space_append
    {space : Text}
    (isSpace : IsSpace space)
    (rest : Text) :
    Text.trimStart (space ++ (CodePoint.scalar '>' :: rest)) =
      CodePoint.scalar '>' :: rest := by
  have blank (point : CodePoint) (within : point ∈ space) :
      point.isBlank = true := by
    rcases isSpace point within with rfl | rfl | rfl | rfl <;> decide
  rw [Text.trimStart, List.dropWhile_append_of_pos blank]
  rfl

/-! ## Runs of text -/

/-- The end of a document, or markup: where a run of text ends. -/
def EndsText (text : Text) : Prop :=
  text = [] ∨
    ∃ markup, text = CodePoint.scalar '<' :: markup ∧
      beginsMarkup markup = true

theorem textRun_append
    {text rest : Text}
    (noMark : CodePoint.scalar '<' ∉ text)
    (ends : EndsText rest) :
    textRun (text ++ rest) = (text, rest) := by
  induction text with
  | nil =>
      rcases ends with rfl | ⟨markup, rfl, begins⟩
      · rfl
      · rw [List.nil_append, textRun, if_pos ⟨rfl, begins⟩]
  | cons first text induction_hypothesis =>
      rw [List.mem_cons, not_or] at noMark
      have notMark : ¬ (first = '<' ∧ beginsMarkup (text ++ rest) = true) :=
        fun isMark => noMark.1 isMark.1.symm
      rw [List.cons_append, textRun, if_neg notMark,
        induction_hypothesis noMark.2]

end Markup

end AnnotatedSql
