import AnnotatedSql.Text.Basic

/-!
# Name patterns

A pattern describes a set of names.  `*` stands for any run of code points, `?`
for any one code point, and `[...]` for one code point of a set; every other
code point stands for itself.  A whole name has to match.

A set lists code points and ranges such as `a-c`, and is complemented by a
leading `!`.  A `]` that comes first belongs to the set, as does a hyphen at
either end, and a `[` that is never closed stands for itself.  A range whose
ends are in the wrong order is empty: it vanishes from the set before the set is
read, together with its ends.
-/

namespace AnnotatedSql.Text.Pattern

/-- A set of code points given by closed ranges, possibly complemented. -/
structure PointSet where
  complemented : Bool
  ranges : List (CodePoint × CodePoint)

/-- A code point belongs to a set. -/
def PointSet.contains
    (set : PointSet)
    (point : CodePoint) : Bool :=
  (set.ranges.any fun range => range.1 ≤ point && point ≤ range.2) !=
    set.complemented

/-- A part of a pattern. -/
inductive Part where
  | anyRun
  | anyPoint
  | oneOf (set : PointSet)
  | exactly (point : CodePoint)

/-! ## Sets -/

/-- The text inside a set that starts after its opening bracket, and what
follows the set.  A `]` directly after the opening bracket, or after the `!`,
does not close the set. -/
def setText? (text : Text) : Option (Text × Text) :=
  let mark := text.takeWhile (· = CodePoint.scalar '!') |>.take 1
  let afterMark := text.drop mark.length
  let bracket := afterMark.takeWhile (· = CodePoint.scalar ']') |>.take 1
  (cutAtFirst? "]" (afterMark.drop bracket.length)).map fun (inside, rest) =>
    (mark ++ bracket ++ inside, rest)

/-- The place of the first hyphen that is not among the first `skipped` code
points. -/
def hyphenFrom?
    (skipped : Nat)
    (text : Text) : Option Nat :=
  ((text.drop skipped).findIdx? (· = CodePoint.scalar '-')).map (· + skipped)

/-- The text of a set cut at the hyphens of its ranges.  Each hyphen stands
between the last code point of one piece and the first of the next, so a piece
between two hyphens has at least two. -/
def piecesAfter
    (skipped : Nat)
    (text : Text) : List Text :=
  match hyphenFrom? skipped text with
  | none => [text]
  | some place =>
      if text.length ≤ place then [text]
      else
        match piecesAfter 2 (text.drop (place + 1)) with
        | [[]] => [text.take place ++ "-"]
        | pieces => text.take place :: pieces
termination_by text.length
decreasing_by simp only [List.length_drop]; omega

/-- The pieces of the text of a set.  The first code point never is a range's
hyphen, nor is the one after a leading `!`. -/
def pieces (text : Text) : List Text :=
  piecesAfter (if text.head? = some (CodePoint.scalar '!') then 2 else 1) text

/-- Joins two neighbouring pieces, without the ends of the range between them,
if the range is empty. -/
def joinEmptyRange (piece : Text) : List Text → List Text
  | [] => [piece]
  | next :: rest =>
      match piece.getLast?, next.head? with
      | some lower, some upper =>
          if lower ≤ upper then piece :: next :: rest
          else (piece.dropLast ++ next.tail) :: rest
      | _, _ => piece :: next :: rest

/-- The code points of the pieces, with `none` for the hyphen of every range. -/
def marked : List Text → List (Option CodePoint)
  | [] => []
  | [piece] => piece.map some
  | piece :: next :: rest => piece.map some ++ [none] ++ marked (next :: rest)

/-- The ranges of a marked text; a single code point is a range of its own. -/
def rangesOf : List (Option CodePoint) → List (CodePoint × CodePoint)
  | [] => []
  | some lower :: none :: some upper :: rest => (lower, upper) :: rangesOf rest
  | some point :: rest => (point, point) :: rangesOf rest
  | none :: rest =>
      (CodePoint.scalar '-', CodePoint.scalar '-') :: rangesOf rest

/-- The set that a text between brackets describes. -/
def PointSet.ofText (text : Text) : PointSet :=
  match marked ((pieces text).foldr joinEmptyRange []) with
  | some (.scalar '!') :: rest => ⟨true, rangesOf rest⟩
  | points => ⟨false, rangesOf points⟩

/-! ## Patterns -/

/-- The parts of a pattern. -/
def parts : Text → List Part
  | [] => []
  | .scalar '*' :: rest => .anyRun :: parts rest
  | .scalar '?' :: rest => .anyPoint :: parts rest
  | .scalar '[' :: rest =>
      match setText? rest with
      | some (inside, after) =>
          if after.length < rest.length then
            .oneOf (.ofText inside) :: parts after
          else .exactly '[' :: parts rest
      | none => .exactly '[' :: parts rest
  | point :: rest => .exactly point :: parts rest
termination_by text => text.length
decreasing_by all_goals (simp only [List.length_cons]; omega)

/-- A text and its endings, from the longest to the empty one. -/
def endings : Text → List Text
  | [] => [[]]
  | point :: rest => (point :: rest) :: endings rest

/-- What may be left of a name after one more part, from what may be left before
it.  The texts are endings of one name from the longest down. -/
def Part.step (remaining : List Text) : Part → List Text
  | .anyRun => remaining.head?.elim [] endings
  | .anyPoint => remaining.filterMap List.tail?
  | .oneOf set => remaining.filterMap fun
    | point :: rest => if set.contains point then some rest else none
    | [] => none
  | .exactly expected => remaining.filterMap fun
    | point :: rest => if expected = point then some rest else none
    | [] => none

/-- A pattern describes a name. -/
def accepts (pattern name : Text) : Bool :=
  ((parts pattern).foldl Part.step [name]).any List.isEmpty

end AnnotatedSql.Text.Pattern
