import AnnotatedSql.Proofs.Markup.Escape
import AnnotatedSql.Proofs.Outcome
import AnnotatedSql.Proofs.Text.CodePoint
import AnnotatedSql.Proofs.Text.Cutting
import AnnotatedSql.Proofs.Text.Numeral

/-!
# References in a text

A text is scanned once, from left to right: where a reference is spelled, it
is taken as a whole, and every other code point stands for itself, an
ampersand that begins no reference among them.  There is one such scan of
every text, and decoding replaces each reference of the scan by its code
point.  So what has been decoded is not looked at again, even if it spells a
reference itself, and decoding fails exactly if the scan meets a reference
whose number is none of a code point, or has too many digits.
-/

namespace AnnotatedSql

namespace Markup

namespace Reference

/-! ## What a reference denotes -/

/-- A reference as it may stand in a text: a number is spelled with at least
one digit, and with the digits of its base only. -/
def WellSpelled : Reference → Prop
  | named _ => True
  | decimal digits =>
      digits ≠ [] ∧ ∀ point ∈ digits, point.isAsciiDigit = true
  | hexadecimal mark digits =>
      (mark = 'x' ∨ mark = 'X') ∧
        digits ≠ [] ∧ ∀ point ∈ digits, point.hexadecimalValue?.isSome = true

/-- The number that a reference spells in the positional system of its base,
or that of the character that it names. -/
def number : Reference → Nat
  | named character => character.character.toNat
  | decimal digits => Numeral.value digits
  | hexadecimal _ digits =>
      Nat.ofDigits 16 (digits.filterMap CodePoint.hexadecimalValue?).reverse

/-- A decimal number with more digits than a numeral may have, leading zeros
counted. -/
def Overlong : Reference → Prop
  | decimal digits => Numeral.longest < digits.length
  | named _ => False
  | hexadecimal _ _ => False

/-- A reference stands for the code point of its number. -/
def Denotes (reference : Reference) (point : CodePoint) : Prop :=
  reference.number = point.toNat ∧ ¬ reference.Overlong

/-- A reference to no code point. -/
def Invalid (reference : Reference) : Prop :=
  CodePoint.last < reference.number ∨ reference.Overlong

theorem not_invalid_iff
    {reference : Reference} :
    ¬ reference.Invalid ↔ ∃ point, reference.Denotes point := by
  rw [Invalid, not_or]
  constructor
  · rintro ⟨bounded, short⟩
    cases found : CodePoint.ofNat? reference.number with
    | none => exact absurd (CodePoint.ofNat?_eq_none_iff.1 found) bounded
    | some point =>
        exact ⟨point, CodePoint.ofNat?_eq_some_iff.1 found, short⟩
  · rintro ⟨point, number_eq, short⟩
    refine ⟨?_, short⟩
    rw [number_eq]
    exact Nat.not_lt.2 point.toNat_le_last

theorem denoted?_eq_some_iff
    {reference : Reference}
    {point : CodePoint}
    (wellSpelled : reference.WellSpelled) :
    reference.denoted? = some point ↔ reference.Denotes point := by
  cases reference with
  | named character =>
      rw [denoted?, Option.some_inj, Denotes, number]
      constructor
      · rintro rfl
        exact ⟨rfl, not_false⟩
      · rintro ⟨number_eq, _⟩
        exact CodePoint.toNat_injective number_eq
  | decimal digits =>
      have numeral : Numeral.IsNumeral digits :=
        ⟨wellSpelled.1, fun point member =>
          CodePoint.isDecimal_of_isAsciiDigit (wellSpelled.2 point member)⟩
      rw [denoted?, Denotes, Overlong, not_lt, number]
      cases read_eq : Numeral.read digits with
      | ok value =>
          rcases numeral.read_eq_ok_iff.1 read_eq with ⟨rfl, short⟩
          simp only [CodePoint.ofNat?_eq_some_iff]
          exact (and_iff_left short).symm
      | error error =>
          have long := (numeral.read_eq_error_iff.1 read_eq).1
          simp only [reduceCtorEq, false_iff]
          intro denotes
          exact Nat.not_lt.2 denotes.2 long
  | hexadecimal mark digits =>
      rw [denoted?, CodePoint.ofNat?_eq_some_iff,
        Numeral.ofDigits_eq_natOfDigits]
      exact (and_iff_left not_false).symm

theorem denoted?_eq_none_iff
    {reference : Reference}
    (wellSpelled : reference.WellSpelled) :
    reference.denoted? = none ↔ reference.Invalid := by
  rw [← not_iff_not, not_invalid_iff, ← ne_eq, Option.ne_none_iff_exists']
  exact exists_congr fun point => denoted?_eq_some_iff wellSpelled

/-! ## Where a reference is found -/

/-- A run of digits is found exactly where it stands in front of a
semicolon. -/
theorem closedDigits?_eq_some_iff
    {isDigit : CodePoint → Bool}
    (notDigit : isDigit ';' = false)
    {text digits rest : Text} :
    closedDigits? isDigit text = some (digits, rest) ↔
      (digits ≠ [] ∧ ∀ point ∈ digits, isDigit point = true) ∧
        text = digits ++ ";" ++ rest := by
  constructor
  · intro found
    refine ⟨?_, spelling_append_of_closedDigits? found⟩
    unfold closedDigits? at found
    split at found
    · cases found
    · next first others run_eq =>
      simp only [Option.map_eq_some_iff, Prod.mk.injEq] at found
      rcases found with ⟨_, _, rfl, _⟩
      refine ⟨List.cons_ne_nil _ _, ?_⟩
      rw [← run_eq]
      exact fun point => List.mem_takeWhile_imp
  · rintro ⟨⟨nonempty, within⟩, rfl⟩
    have ends : ∀ point ∈ ((";" : Text) ++ rest).head?,
        isDigit point = false := by
      rintro point ⟨rfl⟩
      exact notDigit
    rw [closedDigits?, List.append_assoc,
      Text.takeWhile_append_of_run within ends,
      Text.dropWhile_append_of_run within ends, Text.after?_append]
    cases digits with
    | nil => exact absurd rfl nonempty
    | cons first digits => rfl

/-- The digits of a decimal number are no mark of a hexadecimal one. -/
theorem ne_mark_of_isAsciiDigit
    {point : CodePoint}
    (digit : point.isAsciiDigit = true) :
    ¬ (point = 'x' ∨ point = 'X') := by
  rintro (rfl | rfl) <;> exact absurd digit (by decide)

theorem wellSpelled_of_numeric?
    {text rest : Text}
    {reference : Reference}
    (found : numeric? text = some (reference, rest)) :
    reference.WellSpelled := by
  unfold numeric? at found
  split at found
  · cases found
  · split at found
    · next isMark =>
      simp only [Option.map_eq_some_iff, Prod.exists, Prod.mk.injEq] at found
      rcases found with ⟨digits, _, digits_found, rfl, _⟩
      exact ⟨isMark, ((closedDigits?_eq_some_iff rfl).1 digits_found).1⟩
    · simp only [Option.map_eq_some_iff, Prod.exists, Prod.mk.injEq] at found
      rcases found with ⟨digits, _, digits_found, rfl, _⟩
      exact ((closedDigits?_eq_some_iff rfl).1 digits_found).1

theorem numeric?_decimal
    {digits : Text}
    (wellSpelled : (decimal digits).WellSpelled)
    (rest : Text) :
    numeric? (digits ++ ";" ++ rest) = some (decimal digits, rest) := by
  have closed : closedDigits? CodePoint.isAsciiDigit (digits ++ ";" ++ rest) =
      some (digits, rest) :=
    (closedDigits?_eq_some_iff rfl).2 ⟨wellSpelled, rfl⟩
  cases digits with
  | nil => exact absurd rfl wellSpelled.1
  | cons first digits =>
      have notMark := ne_mark_of_isAsciiDigit
        (wellSpelled.2 first List.mem_cons_self)
      rw [List.cons_append, List.cons_append] at closed ⊢
      rw [numeric?, if_neg notMark, closed]
      rfl

theorem numeric?_hexadecimal
    {mark : CodePoint}
    {digits : Text}
    (wellSpelled : (hexadecimal mark digits).WellSpelled)
    (rest : Text) :
    numeric? (mark :: (digits ++ ";" ++ rest)) =
      some (hexadecimal mark digits, rest) := by
  have closed :
      closedDigits? (fun point => point.hexadecimalValue?.isSome)
        (digits ++ ";" ++ rest) = some (digits, rest) :=
    (closedDigits?_eq_some_iff rfl).2 ⟨wellSpelled.2, rfl⟩
  rw [numeric?, if_pos wellSpelled.1, closed]
  rfl

/-- Behind an ampersand a reference is found exactly where one is spelled. -/
theorem afterAmpersand?_eq_some_iff
    {text rest : Text}
    {reference : Reference} :
    afterAmpersand? text = some (reference, rest) ↔
      reference.WellSpelled ∧
        CodePoint.scalar '&' :: text = reference.spelling ++ rest := by
  constructor
  · intro found
    refine ⟨?_, spelling_append_of_afterAmpersand? found⟩
    unfold afterAmpersand? at found
    split at found
    · exact wellSpelled_of_numeric? found
    · rcases List.exists_of_findSome?_eq_some found with ⟨character, _, named⟩
      simp only [Option.map_eq_some_iff, Prod.mk.injEq] at named
      rcases named with ⟨_, _, rfl, _⟩
      exact trivial
  · rintro ⟨wellSpelled, text_eq⟩
    cases reference with
    | named character =>
        obtain rfl : text = character.name ++ ";" ++ rest :=
          (List.cons.inj text_eq).2
        exact afterAmpersand?_name character rest
    | decimal digits =>
        obtain rfl : text = ("#" : Text) ++ (digits ++ ";" ++ rest) :=
          (List.cons.inj text_eq).2
        rw [afterAmpersand?, Text.after?_append]
        exact numeric?_decimal wellSpelled rest
    | hexadecimal mark digits =>
        obtain rfl : text = ("#" : Text) ++ (mark :: (digits ++ ";" ++ rest)) :=
          (List.cons.inj text_eq).2
        rw [afterAmpersand?, Text.after?_append]
        exact numeric?_hexadecimal wellSpelled rest

end Reference

/-! ## Scans -/

/-- A text begins with a reference. -/
def BeginsReference (text : Text) : Prop :=
  ∃ reference : Reference, ∃ rest,
    reference.WellSpelled ∧ text = reference.spelling ++ rest

/-- A code point as it stands in a text: as itself, or as a reference. -/
inductive SpelledPoint where
  | itself (point : CodePoint)
  | reference (reference : Reference)

namespace SpelledPoint

/-- What stands in the text. -/
def spelling : SpelledPoint → Text
  | .itself point => [point]
  | .reference found => found.spelling

/-- The code point that is spelled. -/
def Denotes : SpelledPoint → CodePoint → Prop
  | .itself point, denoted => point = denoted
  | .reference found, denoted => found.Denotes denoted

/-- A reference to no code point. -/
def Invalid : SpelledPoint → Prop
  | .itself _ => False
  | .reference found => found.Invalid

/-- A reference has to be spelled as references are. -/
def WellSpelled : SpelledPoint → Prop
  | .itself _ => True
  | .reference found => found.WellSpelled

/-- What decoding makes of a code point that is spelled. -/
def decoded : SpelledPoint → Except Error CodePoint
  | .itself point => .ok point
  | .reference found =>
      match found.denoted? with
      | some point => .ok point
      | none => .error (.invalidReference found.spelling)

end SpelledPoint

/-- How a text is taken apart from left to right.  A reference is taken where
it is spelled, and a code point stands for itself where none is. -/
inductive Scan : Text → List SpelledPoint → Prop where
  | finished : Scan [] []
  | itself
      {point : CodePoint}
      {text : Text}
      {points : List SpelledPoint}
      (plain : ¬ BeginsReference (point :: text))
      (others : Scan text points) :
      Scan (point :: text) (.itself point :: points)
  | reference
      {found : Reference}
      {text : Text}
      {points : List SpelledPoint}
      (wellSpelled : found.WellSpelled)
      (others : Scan text points) :
      Scan (found.spelling ++ text) (.reference found :: points)

theorem Reference.exists_spelling_eq_cons (reference : Reference) :
    ∃ body, reference.spelling = CodePoint.scalar '&' :: body := by
  cases reference with
  | named character => exact ⟨_, rfl⟩
  | decimal digits => exact ⟨_, rfl⟩
  | hexadecimal mark digits => exact ⟨_, rfl⟩

theorem BeginsReference.head_eq
    {point : CodePoint}
    {text : Text}
    (begins : BeginsReference (point :: text)) :
    point = '&' := by
  rcases begins with ⟨reference, rest, _, text_eq⟩
  rcases reference.exists_spelling_eq_cons with ⟨body, spelling_eq⟩
  rw [spelling_eq] at text_eq
  exact (List.cons.inj text_eq).1

/-- Two references that a text begins with are the same. -/
theorem Reference.append_unique
    {reference reference' : Reference}
    {rest rest' : Text}
    (wellSpelled : reference.WellSpelled)
    (wellSpelled' : reference'.WellSpelled)
    (same : reference.spelling ++ rest = reference'.spelling ++ rest') :
    reference = reference' ∧ rest = rest' := by
  rcases reference.exists_spelling_eq_cons with ⟨body, spelling_eq⟩
  have found : afterAmpersand? (body ++ rest) = some (reference, rest) :=
    afterAmpersand?_eq_some_iff.2 ⟨wellSpelled, by rw [spelling_eq]; rfl⟩
  have found' : afterAmpersand? (body ++ rest) = some (reference', rest') := by
    refine afterAmpersand?_eq_some_iff.2 ⟨wellSpelled', ?_⟩
    rw [← same, spelling_eq]
    rfl
  rw [found'] at found
  cases found
  exact ⟨rfl, rfl⟩

theorem Scan.of_plain
    {point : CodePoint}
    {text : Text}
    {points : List SpelledPoint}
    (plain : ¬ BeginsReference (point :: text))
    (scan : Scan (point :: text) points) :
    ∃ others, points = .itself point :: others ∧ Scan text others := by
  generalize text_eq : point :: text = scanned at scan
  cases scan with
  | finished => cases text_eq
  | itself _ others =>
      cases text_eq
      exact ⟨_, rfl, others⟩
  | @reference found rest _ wellSpelled _ =>
      exact absurd ⟨found, rest, wellSpelled, text_eq⟩ plain

theorem Scan.of_reference
    {reference : Reference}
    {text : Text}
    {points : List SpelledPoint}
    (wellSpelled : reference.WellSpelled)
    (scan : Scan (reference.spelling ++ text) points) :
    ∃ others, points = .reference reference :: others ∧ Scan text others := by
  generalize text_eq : reference.spelling ++ text = scanned at scan
  cases scan with
  | finished =>
      rcases reference.exists_spelling_eq_cons with ⟨body, spelling_eq⟩
      rw [spelling_eq] at text_eq
      cases text_eq
  | itself plain _ =>
      exact absurd ⟨reference, text, wellSpelled, text_eq.symm⟩ plain
  | reference wellSpelled' others =>
      rcases Reference.append_unique wellSpelled wellSpelled' text_eq with
        ⟨rfl, rfl⟩
      exact ⟨_, rfl, others⟩

/-- There is one scan of a text. -/
theorem Scan.unique
    {text : Text}
    {points points' : List SpelledPoint}
    (scan : Scan text points)
    (scan' : Scan text points') :
    points' = points := by
  induction scan generalizing points' with
  | finished =>
      generalize text_eq : ([] : Text) = scanned at scan'
      cases scan' with
      | finished => rfl
      | itself => cases text_eq
      | @reference found =>
          rcases found.exists_spelling_eq_cons with ⟨body, spelling_eq⟩
          rw [spelling_eq] at text_eq
          cases text_eq
  | itself plain _ induction_hypothesis =>
      rcases scan'.of_plain plain with ⟨others, rfl, scan_others⟩
      rw [induction_hypothesis scan_others]
  | reference wellSpelled _ induction_hypothesis =>
      rcases scan'.of_reference wellSpelled with ⟨others, rfl, scan_others⟩
      rw [induction_hypothesis scan_others]

/-- Every text has a scan. -/
theorem exists_scan (text : Text) : ∃ points, Scan text points := by
  cases text with
  | nil => exact ⟨[], .finished⟩
  | cons point text =>
      by_cases begins : BeginsReference (point :: text)
      · rcases begins with ⟨reference, rest, wellSpelled, text_eq⟩
        have shorter : rest.length ≤ text.length := by
          rcases reference.exists_spelling_eq_cons with ⟨body, spelling_eq⟩
          rw [spelling_eq, List.cons_append] at text_eq
          rw [(List.cons.inj text_eq).2, List.length_append]
          exact Nat.le_add_left _ _
        rcases exists_scan rest with ⟨points, scan⟩
        rw [text_eq]
        exact ⟨_, .reference wellSpelled scan⟩
      · rcases exists_scan text with ⟨points, scan⟩
        exact ⟨_, .itself begins scan⟩
termination_by text.length

/-- The references of a scan are spelled as references are. -/
theorem Scan.wellSpelled
    {text : Text}
    {points : List SpelledPoint}
    (scan : Scan text points) :
    ∀ point ∈ points, point.WellSpelled := by
  induction scan with
  | finished => exact List.forall_mem_nil _
  | itself _ _ induction_hypothesis =>
      exact List.forall_mem_cons.2 ⟨trivial, induction_hypothesis⟩
  | reference wellSpelled _ induction_hypothesis =>
      exact List.forall_mem_cons.2 ⟨wellSpelled, induction_hypothesis⟩

/-- Where every ampersand is spelled as a reference, the scan finds the code
points as they were spelled: what follows a reference cannot change it. -/
theorem scan_flatMap_spelling
    {points : List SpelledPoint}
    (spelled : ∀ point ∈ points, point.WellSpelled ∧ point ≠ .itself '&') :
    Scan (points.flatMap SpelledPoint.spelling) points := by
  induction points with
  | nil => exact .finished
  | cons point points induction_hypothesis =>
      rw [List.forall_mem_cons] at spelled
      have others := induction_hypothesis spelled.2
      rw [List.flatMap_cons]
      cases point with
      | itself point =>
          refine .itself (fun begins => spelled.1.2 ?_) others
          rw [begins.head_eq]
      | reference found => exact .reference spelled.1.1 others

/-! ## Seams -/

/-- A code point that cannot stand in a reference. -/
def Severs (mark : CodePoint) : Prop :=
  ∀ reference : Reference, reference.WellSpelled → mark ∉ reference.spelling

/-- References are spelled with digits of their base, and with few other code
points. -/
theorem severs_of_not_mem
    {mark : CodePoint}
    (notDigit : mark.isAsciiDigit = false)
    (notHexadecimal : mark.hexadecimalValue? = none)
    (notFixed : mark ∉ ("&#xX;ampquosltg" : Text)) :
    Severs mark := by
  have elsewhere {word : Text} (fixed : word ⊆ ("&#xX;ampquosltg" : Text)) :
      mark ∉ word :=
    fun member => notFixed (fixed member)
  intro reference wellSpelled
  cases reference with
  | named character =>
      exact elsewhere (by cases character <;> decide)
  | decimal digits =>
      have notIn : mark ∉ digits := by
        intro member
        exact nomatch notDigit.symm.trans (wellSpelled.2 mark member)
      rw [Reference.spelling, List.mem_append, List.mem_append, not_or, not_or]
      exact ⟨⟨elsewhere (by decide), notIn⟩, elsewhere (by decide)⟩
  | hexadecimal case digits =>
      rcases wellSpelled with ⟨isCase, _, within⟩
      have notIn : mark ∉ digits := by
        intro member
        have value := within mark member
        rw [notHexadecimal] at value
        cases value
      have notCase : mark ∉ [case] := by
        rcases isCase with rfl | rfl <;> exact elsewhere (by decide)
      rw [Reference.spelling, List.mem_append, List.mem_append,
        List.mem_append, not_or, not_or, not_or]
      exact ⟨⟨⟨elsewhere (by decide), notCase⟩, notIn⟩,
        elsewhere (by decide)⟩

theorem Severs.not_begins
    {mark : CodePoint}
    (severs : Severs mark)
    (text : Text) :
    ¬ BeginsReference (mark :: text) := by
  rintro ⟨reference, rest, wellSpelled, text_eq⟩
  rcases reference.exists_spelling_eq_cons with ⟨body, spelling_eq⟩
  apply severs reference wellSpelled
  rw [spelling_eq, List.cons_append] at text_eq
  rw [spelling_eq, (List.cons.inj text_eq).1]
  exact List.mem_cons_self

/-- A reference does not reach over a code point that cannot stand in it. -/
theorem Severs.begins_of_append
    {mark : CodePoint}
    {text after : Text}
    (severs : Severs mark)
    (begins : BeginsReference (text ++ mark :: after)) :
    BeginsReference text := by
  rcases begins with ⟨reference, rest, wellSpelled, text_eq⟩
  rcases List.append_eq_append_iff.1 text_eq with
    ⟨overlap, spelling_eq, seam_eq⟩ | ⟨rest', rfl, _⟩
  · cases overlap with
    | nil =>
        rw [List.append_nil] at spelling_eq
        exact ⟨reference, [], wellSpelled, by
          rw [spelling_eq, List.append_nil]⟩
    | cons point overlap =>
        cases seam_eq
        refine absurd ?_ (severs reference wellSpelled)
        rw [spelling_eq]
        exact List.mem_append_right _ List.mem_cons_self
  · exact ⟨reference, rest', wellSpelled, rfl⟩

/-- The scans on both sides of a code point that cannot stand in a reference
make one. -/
theorem Scan.append_mark
    {mark : CodePoint}
    {text after : Text}
    {points points' : List SpelledPoint}
    (severs : Severs mark)
    (scan : Scan text points)
    (scan_after : Scan after points') :
    Scan (text ++ mark :: after) (points ++ .itself mark :: points') := by
  induction scan with
  | finished => exact .itself (severs.not_begins after) scan_after
  | itself plain _ induction_hypothesis =>
      exact .itself (fun begins => plain (severs.begins_of_append begins))
        induction_hypothesis
  | reference wellSpelled _ induction_hypothesis =>
      rw [List.append_assoc]
      exact .reference wellSpelled induction_hypothesis

/-! ## Decoding along the scan -/

theorem decodeReferences_of_plain
    {point : CodePoint}
    {text : Text}
    (plain : ¬ BeginsReference (point :: text)) :
    decodeReferences (point :: text) =
      (decodeReferences text).map (point :: ·) := by
  by_cases isAmpersand : point = '&'
  · subst isAmpersand
    rw [decodeReferences, if_pos rfl]
    split
    · next reference rest found =>
      exact absurd
        ⟨reference, rest, Reference.afterAmpersand?_eq_some_iff.1 found⟩ plain
    · rfl
  · exact decodeReferences_cons isAmpersand text

theorem decodeReferences_reference
    {reference : Reference}
    (wellSpelled : reference.WellSpelled)
    (text : Text) :
    decodeReferences (reference.spelling ++ text) =
      (do
        let point ← (SpelledPoint.reference reference).decoded
        let points ← decodeReferences text
        return point :: points) := by
  rcases reference.exists_spelling_eq_cons with ⟨body, spelling_eq⟩
  have here : Reference.afterAmpersand? (body ++ text) =
      some (reference, text) :=
    Reference.afterAmpersand?_eq_some_iff.2
      ⟨wellSpelled, by rw [spelling_eq]; rfl⟩
  rw [spelling_eq, List.cons_append, decodeReferences, if_pos rfl]
  split
  · next reference' rest found =>
    rw [here] at found
    cases found
    rw [SpelledPoint.decoded]
    cases reference.denoted? with
    | none => rfl
    | some point => cases decodeReferences text <;> rfl
  · next notFound =>
    rw [here] at notFound
    cases notFound

/-- Decoding replaces the parts of the scan one by one. -/
theorem Scan.decodeReferences_eq
    {text : Text}
    {points : List SpelledPoint}
    (scan : Scan text points) :
    decodeReferences text = points.mapM SpelledPoint.decoded := by
  induction scan with
  | finished =>
      rw [decodeReferences]
      rfl
  | itself plain others induction_hypothesis =>
      rw [decodeReferences_of_plain plain, induction_hypothesis,
        List.mapM_cons]
      cases List.mapM SpelledPoint.decoded _ <;> rfl
  | reference wellSpelled others induction_hypothesis =>
      rw [decodeReferences_reference wellSpelled, induction_hypothesis,
        List.mapM_cons]

/-- What stands on both sides of a code point that cannot stand in a
reference is decoded for itself. -/
theorem Severs.decodeReferences_append
    {mark : CodePoint}
    (severs : Severs mark)
    (text after : Text) :
    decodeReferences (text ++ mark :: after) =
      (do
        let value ← decodeReferences text
        let value' ← decodeReferences after
        return value ++ mark :: value') := by
  rcases exists_scan text with ⟨points, scan⟩
  rcases exists_scan after with ⟨points', scan_after⟩
  rw [(scan.append_mark severs scan_after).decodeReferences_eq,
    scan.decodeReferences_eq, scan_after.decodeReferences_eq,
    List.mapM_append, List.mapM_cons]
  cases points.mapM SpelledPoint.decoded with
  | error error => rfl
  | ok value => cases points'.mapM SpelledPoint.decoded <;> rfl

theorem Severs.exists_of_decodeReferences_append
    {mark : CodePoint}
    {text after decoded : Text}
    (severs : Severs mark)
    (succeeded : decodeReferences (text ++ mark :: after) = .ok decoded) :
    ∃ value value',
      decodeReferences text = .ok value ∧
        decodeReferences after = .ok value' ∧
        decoded = value ++ mark :: value' := by
  rw [severs.decodeReferences_append, Outcome.bind_eq_ok_iff] at succeeded
  rcases succeeded with ⟨value, value_eq, succeeded⟩
  rcases Outcome.bind_eq_ok_iff.1 succeeded with ⟨value', value'_eq, joined⟩
  cases joined
  exact ⟨value, value', value_eq, value'_eq, rfl⟩

/-! ## What comes of it -/

namespace SpelledPoint

variable
    {spelled : SpelledPoint}

theorem decoded_eq_ok_iff
    {point : CodePoint}
    (wellSpelled : spelled.WellSpelled) :
    spelled.decoded = .ok point ↔ spelled.Denotes point := by
  cases spelled with
  | itself found =>
      rw [decoded, Denotes, Except.ok.injEq]
  | reference found =>
      rw [Denotes, ← Reference.denoted?_eq_some_iff wellSpelled, decoded]
      cases found.denoted? <;> simp

theorem decoded_eq_error_iff
    {error : Error}
    (wellSpelled : spelled.WellSpelled) :
    spelled.decoded = .error error ↔
      ∃ found, spelled = .reference found ∧ found.Invalid ∧
        error = .invalidReference found.spelling := by
  cases spelled with
  | itself found => simp [decoded]
  | reference found =>
      simp only [reference.injEq, exists_eq_left', decoded,
        ← Reference.denoted?_eq_none_iff wellSpelled]
      cases found.denoted? <;> simp [eq_comm]

theorem exists_decoded_eq_ok_iff
    (wellSpelled : spelled.WellSpelled) :
    (∃ point, spelled.decoded = .ok point) ↔ ¬ spelled.Invalid := by
  cases spelled with
  | itself found => simp [decoded, Invalid]
  | reference found =>
      rw [Invalid, Reference.not_invalid_iff]
      exact exists_congr fun point => decoded_eq_ok_iff wellSpelled

end SpelledPoint

section

variable
    {text : Text}
    {points : List SpelledPoint}

/-- A text is decoded to what the parts of its scan denote. -/
theorem Scan.decodeReferences_eq_ok_iff
    (scan : Scan text points)
    (value : Text) :
    decodeReferences text = .ok value ↔
      List.Forall₂ SpelledPoint.Denotes points value := by
  have along
      {related related' : SpelledPoint → CodePoint → Prop}
      (implies : ∀ spelled point, spelled.WellSpelled →
        related spelled point → related' spelled point)
      (holds : List.Forall₂ related points value) :
      List.Forall₂ related' points value := by
    refine ((List.forall₂_and_left _ _).2 ⟨scan.wellSpelled, holds⟩).imp ?_
    exact fun spelled point both => implies spelled point both.1 both.2
  rw [scan.decodeReferences_eq, Outcome.mapM_eq_ok_iff]
  constructor
  · exact along fun spelled point wellSpelled =>
      (SpelledPoint.decoded_eq_ok_iff wellSpelled).1
  · exact along fun spelled point wellSpelled =>
      (SpelledPoint.decoded_eq_ok_iff wellSpelled).2

/-- A text is refused for the first reference of its scan that is invalid. -/
theorem Scan.decodeReferences_eq_error_iff
    (scan : Scan text points)
    (error : Error) :
    decodeReferences text = .error error ↔
      ∃ before found after,
        points = before ++ .reference found :: after ∧
          (∀ earlier ∈ before, ¬ earlier.Invalid) ∧
          found.Invalid ∧ error = .invalidReference found.spelling := by
  rw [scan.decodeReferences_eq, Outcome.mapM_eq_error_iff]
  constructor
  · rintro ⟨before, spelled, after, points_eq, accepted, refused⟩
    have wellSpelled := scan.wellSpelled
    rw [points_eq, List.forall_mem_append, List.forall_mem_cons]
      at wellSpelled
    rcases (SpelledPoint.decoded_eq_error_iff wellSpelled.2.1).1 refused with
      ⟨found, rfl, invalid, error_eq⟩
    refine ⟨before, found, after, points_eq, ?_, invalid, error_eq⟩
    intro earlier member
    exact (SpelledPoint.exists_decoded_eq_ok_iff
      (wellSpelled.1 earlier member)).1 (accepted earlier member)
  · rintro ⟨before, found, after, points_eq, valid, invalid, error_eq⟩
    have wellSpelled := scan.wellSpelled
    rw [points_eq, List.forall_mem_append, List.forall_mem_cons]
      at wellSpelled
    refine ⟨before, .reference found, after, points_eq, ?_, ?_⟩
    · intro earlier member
      exact (SpelledPoint.exists_decoded_eq_ok_iff
        (wellSpelled.1 earlier member)).2 (valid earlier member)
    · exact (SpelledPoint.decoded_eq_error_iff wellSpelled.2.1).2
        ⟨found, rfl, invalid, error_eq⟩

/-- A text is refused exactly if there is an invalid reference in its scan. -/
theorem Scan.exists_decodeReferences_eq_error_iff
    (scan : Scan text points) :
    (∃ error, decodeReferences text = .error error) ↔
      ∃ found, .reference found ∈ points ∧ found.Invalid := by
  constructor
  · rintro ⟨error, refused⟩
    rcases (scan.decodeReferences_eq_error_iff error).1 refused with
      ⟨before, found, after, rfl, _, invalid, _⟩
    exact ⟨found, List.mem_append_right _ List.mem_cons_self, invalid⟩
  · rintro ⟨found, member, invalid⟩
    cases decoded : decodeReferences text with
    | error error => exact ⟨error, rfl⟩
    | ok value =>
        rw [scan.decodeReferences_eq] at decoded
        have accepted := Outcome.exists_mapM_eq_ok_iff.1 ⟨value, decoded⟩
        exact absurd invalid ((SpelledPoint.exists_decoded_eq_ok_iff
          (scan.wellSpelled _ member)).1 (accepted _ member))

end

/--
Decoding is a single pass.  A sequence of code points, each spelled as itself,
if it is no ampersand, or as a reference to it, is decoded to these code
points, whatever they spell together.  And any text has exactly one scan: it
is decoded to what the parts of the scan denote, where an ampersand without a
reference denotes itself, and it is refused exactly if a reference of the scan
has a number that is none of a code point or a decimal numeral that is too
long, for the first of these.
-/
theorem decodeReferences_in_one_pass :
    (∀ (points : List SpelledPoint) (value : Text),
      (∀ point ∈ points, point.WellSpelled ∧ point ≠ .itself '&') →
      List.Forall₂ SpelledPoint.Denotes points value →
      decodeReferences (points.flatMap SpelledPoint.spelling) = .ok value) ∧
    ∀ text : Text, ∃ points : List SpelledPoint,
      (∀ points', Scan text points' ↔ points' = points) ∧
      (∀ value, decodeReferences text = .ok value ↔
        List.Forall₂ SpelledPoint.Denotes points value) ∧
      (∀ error, decodeReferences text = .error error ↔
        ∃ before found after,
          points = before ++ .reference found :: after ∧
            (∀ earlier ∈ before, ¬ earlier.Invalid) ∧
            found.Invalid ∧ error = .invalidReference found.spelling) ∧
      ((∃ error, decodeReferences text = .error error) ↔
        ∃ found, .reference found ∈ points ∧
          (CodePoint.last < found.number ∨ found.Overlong)) := by
  constructor
  · intro points value spelled denotes
    exact ((scan_flatMap_spelling spelled).decodeReferences_eq_ok_iff value).2
      denotes
  · intro text
    rcases exists_scan text with ⟨points, scan⟩
    refine ⟨points, ?_, scan.decodeReferences_eq_ok_iff,
      scan.decodeReferences_eq_error_iff,
      scan.exists_decodeReferences_eq_error_iff⟩
    intro points'
    constructor
    · exact scan.unique
    · rintro rfl
      exact scan

/-- The code points of an escaped reference, a space and a reference with a
leading zero. -/
def escapedReference : List SpelledPoint :=
  [.reference (.named .ampersand), .itself '#', .itself '6', .itself '0',
    .itself ';', .itself ' ', .reference (.hexadecimal 'X' "03e")]

/-- The decoded ampersand makes a reference of what follows it, which is not
decoded in turn. -/
theorem decodeReferences_in_one_pass_escaped :
    escapedReference.flatMap SpelledPoint.spelling = "&amp;#60; &#X03e;" ∧
      (∀ point ∈ escapedReference,
        point.WellSpelled ∧ point ≠ .itself '&') ∧
      List.Forall₂ SpelledPoint.Denotes escapedReference "&#60; >" ∧
      decodeReferences "&amp;#60; &#X03e;" = .ok "&#60; >" := by
  have spelled : ∀ point ∈ escapedReference,
      point.WellSpelled ∧ point ≠ .itself '&' := by
    have hexadecimal : (Reference.hexadecimal 'X' "03e").WellSpelled :=
      ⟨.inr rfl, by decide, by decide⟩
    intro point member
    simp only [escapedReference, List.mem_cons, List.not_mem_nil, or_false]
      at member
    rcases member with rfl | rfl | rfl | rfl | rfl | rfl | rfl
    · exact ⟨trivial, nofun⟩
    · exact ⟨trivial, by simp⟩
    · exact ⟨trivial, by simp⟩
    · exact ⟨trivial, by simp⟩
    · exact ⟨trivial, by simp⟩
    · exact ⟨trivial, by simp⟩
    · exact ⟨hexadecimal, nofun⟩
  have denotes : List.Forall₂ SpelledPoint.Denotes escapedReference "&#60; >" :=
    .cons ⟨rfl, not_false⟩ (.cons rfl (.cons rfl (.cons rfl (.cons rfl
      (.cons rfl (.cons ⟨by decide, not_false⟩ .nil))))))
  exact ⟨by decide, spelled, denotes,
    decodeReferences_in_one_pass.1 escapedReference _ spelled denotes⟩

end Markup

end AnnotatedSql
