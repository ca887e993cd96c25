import AnnotatedSql.Proofs.Outcome
import AnnotatedSql.Proofs.Text.Cutting
import AnnotatedSql.Proofs.Text.LetterCase
import AnnotatedSql.Proofs.Text.Numeral
import AnnotatedSql.Wildcard.Marker

/-!
# The text of a marker token

A token is a plain one, which begins with an ASCII letter and goes on with
ASCII letters and digits, or a plain one with a line feed behind it.  There is
no low line in it, so the first low line of a sentinel's name ends the token.
Under a plain token the name of a sentinel is an identifier, which a statement
may hold without quotation marks, unless the number of the sentinel is
negative.
-/

namespace AnnotatedSql

/-- A code point that plain identifiers are made of. -/
def CodePoint.isIdentifierPoint (point : CodePoint) : Bool :=
  point.isAsciiLetter || point.isAsciiDigit || point = '_'

/-- A text that is an identifier without quotation marks. -/
structure Text.IsIdentifier (text : Text) : Prop where
  begins : ∃ first ∈ text.head?, first.isAsciiLetter = true
  points : ∀ point ∈ text, point.isIdentifierPoint = true

/-- A text that is an ASCII letter with ASCII letters and digits behind it. -/
structure Text.IsPlainToken (text : Text) : Prop where
  begins : ∃ first ∈ text.head?, first.isAsciiLetter = true
  points : ∀ point ∈ text, (point.isAsciiLetter || point.isAsciiDigit) = true

namespace Wildcard

/-- The texts that are tokens. -/
theorem isMarkerToken_iff {text : Text} :
    isMarkerToken text = true ↔
      ∃ start ending : Text,
        start.IsPlainToken ∧ (ending = [] ∨ ending = "\n") ∧
          text = start ++ ending := by
  constructor
  · intro isToken
    cases text with
    | nil => cases isToken
    | cons first text =>
        rw [isMarkerToken, Bool.and_eq_true] at isToken
        rcases isToken with ⟨letter, ended⟩
        let belongs (point : CodePoint) : Bool :=
          point.isAsciiLetter || point.isAsciiDigit
        refine ⟨first :: text.takeWhile belongs, text.dropWhile belongs,
          ⟨⟨first, rfl, letter⟩, ?_⟩, ?_,
          congrArg (first :: ·) List.takeWhile_append_dropWhile.symm⟩
        · intro point member
          rcases List.mem_cons.1 member with rfl | within
          · exact Bool.or_eq_true_iff.2 (.inl letter)
          · have inside : belongs point = true := List.mem_takeWhile_imp within
            exact inside
        · split at ended
          · next nothing => exact .inl nothing
          · next last only =>
            rw [only, of_decide_eq_true ended]
            exact .inr rfl
          · cases ended
  · rintro ⟨start, ending, plain, ended, rfl⟩
    cases start with
    | nil =>
        rcases plain.begins with ⟨first, impossible, _⟩
        cases impossible
    | cons first rest =>
        rcases plain.begins with ⟨_, ⟨⟩, letter⟩
        have rest_eq :
            (rest ++ ending).dropWhile
              (fun point => point.isAsciiLetter || point.isAsciiDigit) =
              ending := by
          refine Text.dropWhile_append_of_run
            (fun point within => plain.points point
              (List.mem_cons_of_mem first within)) ?_
          rcases ended with rfl | rfl
          · intro point impossible
            cases impossible
          · rintro point ⟨⟩
            rfl
        rw [List.cons_append, isMarkerToken, letter, rest_eq]
        rcases ended with rfl | rfl <;> rfl

namespace MarkerToken

@[simp]
theorem ofText?_text (token : MarkerToken) :
    ofText? token.text = some token :=
  dif_pos token.isToken

theorem ofText?_eq_some_iff
    {text : Text}
    {token : MarkerToken} :
    ofText? text = some token ↔ token.text = text := by
  constructor
  · intro made
    unfold ofText? at made
    split at made
    · cases made
      rfl
    · cases made
  · rintro rfl
    exact token.ofText?_text

theorem exists_ofText?_iff {text : Text} :
    (∃ token, ofText? text = some token) ↔ isMarkerToken text = true := by
  constructor
  · rintro ⟨token, made⟩
    rw [← ofText?_eq_some_iff.1 made]
    exact token.isToken
  · intro isToken
    exact ⟨⟨text, isToken⟩, ofText?_eq_some_iff.2 rfl⟩

/-- A plain text is a token. -/
theorem exists_ofText?_of_isPlainToken
    {text : Text}
    (plain : text.IsPlainToken) :
    ∃ token, ofText? text = some token :=
  exists_ofText?_iff.2
    (isMarkerToken_iff.2 ⟨text, [], plain, .inl rfl, text.append_nil.symm⟩)

theorem cases_of_mem_text
    {token : MarkerToken}
    {point : CodePoint}
    (member : point ∈ token.text) :
    point.isAsciiLetter = true ∨ point.isAsciiDigit = true ∨ point = '\n' := by
  rcases isMarkerToken_iff.1 token.isToken with
    ⟨start, ending, plain, ended, text_eq⟩
  rw [text_eq, List.mem_append] at member
  rcases member with within | behind
  · rcases Bool.or_eq_true_iff.1 (plain.points point within) with
      letter | digit
    · exact .inl letter
    · exact .inr (.inl digit)
  · rcases ended with rfl | rfl
    · exact absurd behind List.not_mem_nil
    · exact .inr (.inr (List.mem_singleton.1 behind))

/-- No low line stands in a token. -/
theorem lowLine_notMem_text (token : MarkerToken) :
    CodePoint.scalar '_' ∉ token.text := by
  intro member
  rcases cases_of_mem_text member with letter | digit | lineFeed
  · cases letter
  · cases digit
  · cases lineFeed

/-- A token of letters and digits is a plain one. -/
theorem isPlainToken_of_alphanumeric
    {token : MarkerToken}
    (alphanumeric :
      ∀ point ∈ token.text,
        (point.isAsciiLetter || point.isAsciiDigit) = true) :
    token.text.IsPlainToken where
  begins := by
    rcases isMarkerToken_iff.1 token.isToken with
      ⟨start, ending, plain, _, text_eq⟩
    rcases plain.begins with ⟨first, begins, letter⟩
    refine ⟨first, ?_, letter⟩
    rw [text_eq]
    exact List.mem_head?_append_of_mem_head? begins
  points := alphanumeric

/-- Under a plain token, exactly the sentinels with a number that is not
negative have identifiers for names. -/
@[simp]
theorem isIdentifier_encode_iff
    {token : MarkerToken}
    (plain : token.text.IsPlainToken)
    (marker : Marker) :
    (token.encode marker).IsIdentifier ↔ 0 ≤ marker.index := by
  rcases marker with ⟨number | number, isBegin⟩
  · refine ⟨fun _ => Int.natCast_nonneg number, fun _ => ⟨?_, ?_⟩⟩
    · rcases plain.begins with ⟨first, begins, letter⟩
      refine ⟨first, ?_, letter⟩
      simp only [encode, List.append_assoc]
      exact List.mem_head?_append_of_mem_head? begins
    · intro point member
      simp only [encode, List.mem_append, or_assoc] at member
      rcases member with within | lowLine | digit | lowLine | letter
      · rw [CodePoint.isIdentifierPoint, plain.points point within]
        rfl
      · rw [List.mem_singleton.1 lowLine]
        rfl
      · rw [CodePoint.isIdentifierPoint,
          Numeral.isAsciiDigit_of_mem_ofNat digit, Bool.or_true]
        rfl
      · rw [List.mem_singleton.1 lowLine]
        rfl
      · have isLetter : point = 'b' ∨ point = 'e' := by
          cases isBegin
          · exact .inr (by simpa [Text.ofString] using letter)
          · exact .inl (by simpa [Text.ofString] using letter)
        rcases isLetter with rfl | rfl <;> rfl
  · refine ⟨fun identifier => ?_,
      fun impossible => absurd (Int.negSucc_lt_zero number) impossible.not_gt⟩
    -- The minus sign stands in the name.
    have sign :
        CodePoint.scalar '-' ∈ token.encode ⟨.negSucc number, isBegin⟩ := by
      simp [encode, Numeral.ofInt]
    have impossible := identifier.points _ sign
    cases impossible

/-- Under a token of letters and digits, sentinels have plain identifiers for
names. -/
theorem isIdentifier_encode
    {token : MarkerToken}
    (alphanumeric :
      ∀ point ∈ token.text, (point.isAsciiLetter || point.isAsciiDigit) = true)
    (number : Nat)
    (isBegin : Bool) :
    Text.IsIdentifier (token.encode ⟨number, isBegin⟩) :=
  (isIdentifier_encode_iff (isPlainToken_of_alphanumeric alphanumeric) _).2
    (Int.natCast_nonneg number)

/-- A name is written for every sentinel whose number is not too long. -/
theorem write_eq_ok_iff
    {token : MarkerToken}
    {marker : Marker}
    {name : Text} :
    token.write marker = .ok name ↔
      marker.index.natAbs < 10 ^ Numeral.longest ∧
        name = token.encode marker := by
  rw [MarkerToken.write, Outcome.map_eq_ok_iff]
  constructor
  · rintro ⟨number, written, rfl⟩
    rcases Numeral.write_eq_ok_iff.1 written with ⟨short, rfl⟩
    exact ⟨short, rfl⟩
  · rintro ⟨short, rfl⟩
    exact ⟨_, Numeral.write_eq_ok_iff.2 ⟨short, rfl⟩, rfl⟩

theorem write_eq_error_iff
    {token : MarkerToken}
    {marker : Marker}
    {error : Numeral.WriteError} :
    token.write marker = .error error ↔
      10 ^ Numeral.longest ≤ marker.index.natAbs := by
  rw [MarkerToken.write, Outcome.map_eq_error_iff]
  exact Numeral.write_eq_error_iff

end MarkerToken

end Wildcard

end AnnotatedSql
