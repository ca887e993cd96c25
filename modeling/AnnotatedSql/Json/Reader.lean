import AnnotatedSql.Json.Value

/-!
# Reading JSON

The grammar is that of JSON with two additions: the words `NaN`, `Infinity` and
`-Infinity` are numbers, and an escape may denote a surrogate that has no
partner.  When an object assigns a name twice, the name keeps its first place
and its last value.

A text is cut into tokens, and the tokens are read one by one with the
unfinished arrays and objects on a stack.  An integer is converted only where a
value may stand, so that a fault of the text in front of an overlong integer is
the one that is reported.
-/

namespace AnnotatedSql.Json

/-- A word of a JSON text. -/
inductive Token where
  | openArray
  | closeArray
  | openObject
  | closeObject
  | comma
  | colon
  | string (value : Text)
  | value (value : Json)
  | integer (negative : Bool) (digits : Text)

/-! ## Strings -/

/-- The code point of an escape of one letter. -/
def shortEscape? : CodePoint → Option CodePoint
  | .scalar '"' => some '"'
  | .scalar '\\' => some '\\'
  | .scalar '/' => some '/'
  | .scalar 'b' => some '\x08'
  | .scalar 'f' => some '\x0c'
  | .scalar 'n' => some '\n'
  | .scalar 'r' => some '\r'
  | .scalar 't' => some '\t'
  | _ => none

/-- The code point of four hexadecimal digits. -/
def unitOfDigits? (digits : Text) : Option CodePoint := do
  CodePoint.ofNat?
    (Numeral.ofDigits 16 (← digits.mapM CodePoint.hexadecimalValue?))

/-- A string up to its closing quotation mark and what follows it, given what
was read of it, latest first.  A control character may not stand in a string. -/
def stringRest? (done : Text) : Text → Option (Text × Text)
  | [] => none
  | .scalar '"' :: rest => some (done.reverse, rest)
  | .scalar '\\' :: .scalar 'u' :: first :: second :: third :: fourth :: rest =>
      match unitOfDigits? [first, second, third, fourth] with
      | some unit => stringRest? (unit :: done) rest
      | none => none
  | .scalar '\\' :: letter :: rest =>
      match shortEscape? letter with
      | some point => stringRest? (point :: done) rest
      | none => none
  | point :: rest =>
      if point.toNat < 0x20 then none else stringRest? (point :: done) rest

/-- The code point that two neighbouring surrogates stand for together. -/
def joinSurrogates? (first second : CodePoint) : Option CodePoint :=
  match first, second with
  | .surrogate high, .surrogate low =>
      if high < 0x400 ∧ 0x400 ≤ low then
        CodePoint.ofNat? (0x10000 + high * 0x400 + (low - 0x400))
      else
        none
  | _, _ => none

/-- A text with every pair of surrogates joined. -/
def joinPairs : Text → Text
  | [] => []
  | [point] => [point]
  | first :: second :: rest =>
      match joinSurrogates? first second with
      | some joined => joined :: joinPairs rest
      | none => first :: joinPairs (second :: rest)

/-! ## Numbers -/

/-- A fraction or exponent of a number after its mark: the digits, at least one,
and the rest. -/
def digitRun? (text : Text) : Option (Text × Text) :=
  match text.takeWhile CodePoint.isAsciiDigit with
  | [] => none
  | first :: digits =>
      some (first :: digits, text.dropWhile CodePoint.isAsciiDigit)

/-- A fraction at the start of a text, empty if there is none, and the rest. -/
def fraction (text : Text) : Text × Text :=
  match (Text.after? "." text).bind digitRun? with
  | some (digits, rest) => ("." ++ digits, rest)
  | none => ([], text)

/-- An exponent at the start of a text, empty if there is none, and the rest. -/
def exponent (text : Text) : Text × Text :=
  match text with
  | mark :: sign :: rest =>
      if mark = 'e' ∨ mark = 'E' then
        if sign = '+' ∨ sign = '-' then
          match digitRun? rest with
          | some (digits, rest) => (mark :: sign :: digits, rest)
          | none => ([], text)
        else
          match digitRun? (sign :: rest) with
          | some (digits, rest) => (mark :: digits, rest)
          | none => ([], text)
      else
        ([], text)
  | _ => ([], text)

/-- The digits of an integer, without a superfluous leading zero, and the
rest. -/
def integerDigits? (text : Text) : Option (Text × Text) :=
  match text with
  | .scalar '0' :: rest => some ("0", rest)
  | _ => digitRun? text

/-- A number at the start of a text. -/
def number? (text : Text) : Option (Token × Text) :=
  let (negative, unsigned) :=
    match Text.after? "-" text with
    | some rest => (true, rest)
    | none => (false, text)
  match integerDigits? unsigned with
  | none => none
  | some (digits, rest) =>
      let (fractionPart, rest) := fraction rest
      let (exponentPart, rest) := exponent rest
      if fractionPart.isEmpty && exponentPart.isEmpty then
        some (.integer negative digits, rest)
      else
        let sign : Text := if negative then "-" else []
        some
          (.value (.number (sign ++ digits ++ fractionPart ++ exponentPart)),
            rest)

/-! ## Tokens -/

/-- The words that are tokens as they stand. -/
def fixedTokens : List (Text × Token) :=
  [("[", .openArray), ("]", .closeArray), ("\x7b", .openObject),
    ("\x7d", .closeObject), (",", .comma), (":", .colon),
    ("null", .value .null), ("true", .value (.bool true)),
    ("false", .value (.bool false)), ("NaN", .value (.number "NaN")),
    ("Infinity", .value (.number "Infinity")),
    ("-Infinity", .value (.number "-Infinity"))]

/-- The token at the start of a text, and what follows it. -/
def token? (text : Text) : Option (Token × Text) :=
  match text with
  | .scalar '"' :: rest =>
      (stringRest? [] rest).map fun (value, rest) =>
        (.string (joinPairs value), rest)
  | _ =>
      match fixedTokens.findSome? fun (word, token) =>
          (Text.after? word text).map fun rest => (token, rest) with
      | some found => some found
      | none => number? text

/-- Space between tokens. -/
def isSpace (point : CodePoint) : Bool :=
  point = ' ' || point = '\t' || point = '\n' || point = '\r'

/-- The tokens of a text, and whether they reach its end. -/
def tokens (text : Text) : List Token × Bool :=
  match text with
  | [] => ([], true)
  | first :: rest =>
      if isSpace first then
        tokens rest
      else
        match token? text with
        | none => ([], false)
        | some (token, rest') =>
            if rest'.length < rest.length + 1 then
              let (following, complete) := tokens rest'
              (token :: following, complete)
            else
              ([], false)
termination_by text.length

/-! ## Values -/

/-- An array or object that is not closed yet.  Items come latest first; an
object that waits for the value of a name holds the name. -/
inductive Unfinished where
  | array (items : List Json)
  | object (entries : Dictionary Json) (name : Text)

/-- What may come next. -/
inductive Expectation where
  | value
  | valueOrClose
  | separator
  | nameOrClose (entries : Dictionary Json)
  | name (entries : Dictionary Json)
  | colon (entries : Dictionary Json) (name : Text)
  | nothing (result : Json)

/-- What has been read of a text: the unfinished arrays and objects, innermost
first, and what may come next. -/
structure Progress where
  unfinished : List Unfinished := []
  expectation : Expectation := .value

/-- Places a value into the innermost unfinished array or object. -/
def Progress.place (value : Json) : List Unfinished → Progress
  | [] => ⟨[], .nothing value⟩
  | .array items :: outer => ⟨.array (value :: items) :: outer, .separator⟩
  | .object entries name :: outer =>
      ⟨.object (entries.put name value) name :: outer, .separator⟩

/-- Reads a token where a value may stand. -/
def Progress.readValue (unfinished : List Unfinished) :
    Token → Except Error Progress
  | .openArray => .ok ⟨.array [] :: unfinished, .valueOrClose⟩
  | .openObject => .ok ⟨unfinished, .nameOrClose []⟩
  | .string text => .ok (place (.string text) unfinished)
  | .value value => .ok (place value unfinished)
  | .integer negative digits =>
      match Numeral.read digits with
      | .ok magnitude =>
          .ok
            (place (.integer (if negative then -magnitude else magnitude))
              unfinished)
      | .error error => .error (.numeral error)
  | _ => .error .malformed

/-- Reads one token. -/
def Progress.read
    (progress : Progress)
    (token : Token) : Except Error Progress :=
  match progress.expectation, token, progress.unfinished with
  | .value, token, unfinished => readValue unfinished token
  | .valueOrClose, .closeArray, .array items :: outer =>
      .ok (place (.array items.reverse) outer)
  | .valueOrClose, token, unfinished => readValue unfinished token
  | .separator, .comma, .array items :: outer =>
      .ok ⟨.array items :: outer, .value⟩
  | .separator, .closeArray, .array items :: outer =>
      .ok (place (.array items.reverse) outer)
  | .separator, .comma, .object entries _ :: outer =>
      .ok ⟨outer, .name entries⟩
  | .separator, .closeObject, .object entries _ :: outer =>
      .ok (place (.object entries) outer)
  | .nameOrClose entries, .closeObject, unfinished =>
      .ok (place (.object entries) unfinished)
  | .nameOrClose entries, .string name, unfinished =>
      .ok ⟨unfinished, .colon entries name⟩
  | .name entries, .string name, unfinished =>
      .ok ⟨unfinished, .colon entries name⟩
  | .colon entries name, .colon, unfinished =>
      .ok ⟨.object entries name :: unfinished, .value⟩
  | _, _, _ => .error .malformed

/-- The value of a JSON text. -/
def read (text : Text) : Except Error Json := do
  let (found, complete) := tokens text
  let progress ← found.foldlM Progress.read {}
  match complete, progress.expectation with
  | true, .nothing result => .ok result
  | _, _ => .error .malformed

end AnnotatedSql.Json
