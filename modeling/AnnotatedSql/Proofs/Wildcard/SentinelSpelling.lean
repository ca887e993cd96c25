import AnnotatedSql.Proofs.Outcome
import AnnotatedSql.Proofs.Text.Cutting
import AnnotatedSql.Proofs.Wildcard.TokenText

/-!
# How sentinels are spelled

`MarkerToken.Spelling` lists the names that a token takes for sentinels.  They
are more than the names that it gives to sentinels.  The letters of the token
may stand in the other case, for which four letters beyond ASCII pass as well;
the number may be written in the decimal digits of any script and may begin
with zeros; the last letter may stand in the other case too, and a line feed
may follow it.

A spelling is that of a written name, but for the case of ASCII letters,
exactly if it makes use of none of the others.
-/

namespace AnnotatedSql.Wildcard.MarkerToken

/-! ## Letters that are equal when folded -/

/-- A kind of code points that no letter beyond ASCII is of. -/
theorem lookup_caseVariants_eq_none
    (kind : CodePoint → Bool)
    {point : CodePoint}
    (noVariants : ∀ pair ∈ caseVariants, kind pair.1 = false)
    (belongs : kind point = true) :
    caseVariants.lookup point = none := by
  rw [List.lookup_eq_none_iff]
  intro pair member
  have notOfKind := noVariants pair member
  rw [bne_iff_ne]
  intro equality
  rw [equality, notOfKind] at belongs
  exact nomatch belongs

theorem lookup_caseVariants_of_letter
    {point : CodePoint}
    (letter : point.isAsciiLetter = true) :
    caseVariants.lookup point = none :=
  lookup_caseVariants_eq_none CodePoint.isAsciiLetter (by decide) letter

/-- Code points that are equal in lower case are folded to the same. -/
theorem foldCase_eq_of_toAsciiLower_eq
    {first second : CodePoint}
    (same : first.toAsciiLower = second.toAsciiLower) :
    foldCase first = foldCase second := by
  cases secondLetter : second.isAsciiLetter with
  | false => rw [CodePoint.eq_of_toAsciiLower_eq secondLetter same]
  | true =>
      cases firstLetter : first.isAsciiLetter with
      | false => rw [CodePoint.eq_of_toAsciiLower_eq firstLetter same.symm]
      | true =>
          rw [foldCase, foldCase, lookup_caseVariants_of_letter firstLetter,
            lookup_caseVariants_of_letter secondLetter]
          exact same

theorem map_foldCase_eq_of_equalUpToCase
    {first second : Text}
    (same : Text.EqualUpToCase first second) :
    first.map foldCase = second.map foldCase := by
  unfold Text.EqualUpToCase at same
  rw [← List.forall₂_eq_eq_eq, List.forall₂_map_left_iff,
    List.forall₂_map_right_iff] at same ⊢
  exact same.imp fun _ _ => foldCase_eq_of_toAsciiLower_eq

/-- Where no letter beyond ASCII stands, folding is the change to lower case. -/
theorem map_foldCase_eq_map_toAsciiLower
    {text : Text}
    (plain : ∀ point ∈ text, caseVariants.lookup point = none) :
    text.map foldCase = text.map CodePoint.toAsciiLower := by
  refine List.map_congr_left fun point member => ?_
  rw [foldCase, plain point member]
  rfl

/-- A token in another case holds no letter beyond ASCII. -/
theorem lookup_caseVariants_of_equalUpToCase
    {token : MarkerToken}
    {start : Text}
    (same : Text.EqualUpToCase start token.text) :
    ∀ point ∈ start, caseVariants.lookup point = none := by
  intro point member
  have lower : point.toAsciiLower ∈ token.text.map CodePoint.toAsciiLower :=
    same ▸ List.mem_map_of_mem member
  rcases List.mem_map.1 lower with ⟨other, within, same_point⟩
  refine lookup_caseVariants_eq_none
    (fun point =>
      point.toAsciiLower.isAsciiLetter || point.toAsciiLower.isAsciiDigit ||
        point.toAsciiLower = '\n')
    (by decide) ?_
  rw [← same_point]
  rcases cases_of_mem_text within with letter | digit | rfl
  · rw [CodePoint.isAsciiLetter_toAsciiLower letter]
    rfl
  · rw [CodePoint.toAsciiLower_of_not_letter
      (CodePoint.not_isAsciiLetter_of_isAsciiDigit digit), digit, Bool.or_true]
    rfl
  · rfl

theorem map_foldCase_text (token : MarkerToken) :
    token.text.map foldCase = token.text.map CodePoint.toAsciiLower := by
  have same : Text.EqualUpToCase token.text token.text := rfl
  exact map_foldCase_eq_map_toAsciiLower
    (lookup_caseVariants_of_equalUpToCase same)

/-- What is folded to a token is the token in another case, unless letters
beyond ASCII stand in it. -/
theorem equalUpToCase_text_iff
    {token : MarkerToken}
    {start : Text}
    (folded : start.map foldCase = token.text.map foldCase) :
    Text.EqualUpToCase start token.text ↔
      ∀ point ∈ start, caseVariants.lookup point = none := by
  constructor
  · exact lookup_caseVariants_of_equalUpToCase
  · intro plain
    rw [map_foldCase_eq_map_toAsciiLower plain, map_foldCase_text] at folded
    exact folded

/-- No low line stands in what is folded to a token. -/
theorem lowLine_notMem_of_map_foldCase
    {token : MarkerToken}
    {start : Text}
    (folded : start.map foldCase = token.text.map foldCase) :
    CodePoint.scalar '_' ∉ start := by
  intro member
  have lowLine :
      CodePoint.scalar '_' ∈ token.text.map CodePoint.toAsciiLower := by
    rw [← map_foldCase_text, ← folded]
    exact List.mem_map.2 ⟨_, member, rfl⟩
  rcases List.mem_map.1 lowLine with ⟨point, within, same⟩
  have point_eq : point = CodePoint.scalar '_' :=
    CodePoint.eq_of_toAsciiLower_eq rfl same
  exact token.lowLine_notMem_text (point_eq ▸ within)

/-! ## The parts of a name -/

theorem afterFolded?_eq_some_iff
    {word text rest : Text} :
    afterFolded? word text = some rest ↔
      ∃ start : Text,
        text = start ++ rest ∧ start.map foldCase = word.map foldCase := by
  induction word generalizing text with
  | nil =>
      rw [afterFolded?, Option.some.injEq]
      constructor
      · rintro rfl
        exact ⟨[], rfl, rfl⟩
      · rintro ⟨start, rfl, folded⟩
        rw [List.map_eq_nil_iff.1 folded]
        rfl
  | cons expected word induction_hypothesis =>
      constructor
      · intro found
        cases text with
        | nil => cases found
        | cons point text =>
            rw [afterFolded?] at found
            split at found
            · next same =>
              rcases induction_hypothesis.1 found with ⟨start, rfl, folded⟩
              refine ⟨point :: start, rfl, ?_⟩
              rw [List.map_cons, List.map_cons, same, folded]
            · cases found
      · rintro ⟨start, rfl, folded⟩
        rcases List.map_eq_cons_iff.1 folded with
          ⟨point, start', rfl, same, folded⟩
        rw [List.cons_append, afterFolded?, if_pos same.symm]
        exact induction_hypothesis.2 ⟨start', rfl, folded⟩

theorem afterFolded?_append
    {word found : Text}
    (same : Text.EqualUpToCase found word)
    (rest : Text) :
    afterFolded? word (found ++ rest) = some rest :=
  afterFolded?_eq_some_iff.2
    ⟨found, rfl, map_foldCase_eq_of_equalUpToCase same⟩

/-- The letter in lower case that ends the name of a sentinel. -/
def lastLetter (isBegin : Bool) : CodePoint :=
  if isBegin then 'b' else 'e'

theorem isBeginOfLetter?_eq_some_iff
    {text : Text}
    {isBegin : Bool} :
    isBeginOfLetter? text = some isBegin ↔
      ∃ letter ending,
        text = letter :: ending ∧
          letter.toAsciiLower = lastLetter isBegin ∧
          (ending = [] ∨ ending = "\n") := by
  constructor
  · intro found
    cases text with
    | nil => cases found
    | cons letter ending =>
        rw [isBeginOfLetter?] at found
        split_ifs at found with ended isB isE
        · rcases isB with rfl | rfl <;> cases found <;>
            exact ⟨_, ending, rfl, rfl, ended⟩
        · rcases isE with rfl | rfl <;> cases found <;>
            exact ⟨_, ending, rfl, rfl, ended⟩
  · rintro ⟨letter, ending, rfl, lower, ended⟩
    rw [isBeginOfLetter?, if_pos ended]
    cases isBegin with
    | true =>
        rcases CodePoint.eq_or_eq_toAsciiUpper lower with rfl | rfl <;> rfl
    | false =>
        rcases CodePoint.eq_or_eq_toAsciiUpper lower with rfl | rfl <;> rfl

/-! ## Spellings -/

/-- A name that a token takes for that of a sentinel, in its parts. -/
structure Spelling (token : MarkerToken) where
  start : Text
  digits : Text
  letter : CodePoint
  ending : Text
  isBegin : Bool
  folded : start.map foldCase = token.text.map foldCase
  isNumeral : Numeral.IsNumeral digits
  lower_eq : letter.toAsciiLower = lastLetter isBegin
  ended : ending = [] ∨ ending = "\n"

namespace Spelling

variable {token : MarkerToken}

/-- The parts in their order, with low lines between them. -/
def name (spelling : Spelling token) : Text :=
  spelling.start ++
    ("_" ++ (spelling.digits ++ ("_" ++ spelling.letter :: spelling.ending)))

theorem sentinelParts?_name (spelling : Spelling token) :
    token.sentinelParts? spelling.name =
      some (spelling.digits, spelling.isBegin) := by
  have after :
      afterFolded? token.text spelling.name =
        some ("_" ++
          (spelling.digits ++ ("_" ++ spelling.letter :: spelling.ending))) :=
    afterFolded?_eq_some_iff.2 ⟨_, rfl, spelling.folded⟩
  have digits :
      (spelling.digits ++
          ("_" ++ spelling.letter :: spelling.ending : Text)).takeWhile
        CodePoint.isDecimal = spelling.digits :=
    Text.takeWhile_append_of_run spelling.isNumeral.decimal
      (by rintro point ⟨⟩; rfl)
  have behind :
      (spelling.digits ++
          ("_" ++ spelling.letter :: spelling.ending : Text)).dropWhile
        CodePoint.isDecimal = "_" ++ spelling.letter :: spelling.ending := by
    rw [List.dropWhile_append_of_pos spelling.isNumeral.decimal]
    rfl
  have isBegin :
      isBeginOfLetter? (spelling.letter :: spelling.ending) =
        some spelling.isBegin :=
    isBeginOfLetter?_eq_some_iff.2
      ⟨_, _, rfl, spelling.lower_eq, spelling.ended⟩
  simp only [sentinelParts?, after, Option.bind_eq_bind, Option.bind_some,
    Text.after?_append, digits, behind, isBegin]
  rw [if_neg (by simpa using spelling.isNumeral.nonempty)]

end Spelling

variable {token : MarkerToken} {name : Text}

/-- The names with the parts of a sentinel are those that a spelling has. -/
theorem sentinelParts?_eq_some_iff
    {digits : Text}
    {isBegin : Bool} :
    token.sentinelParts? name = some (digits, isBegin) ↔
      ∃ spelling : Spelling token,
        spelling.name = name ∧
          spelling.digits = digits ∧ spelling.isBegin = isBegin := by
  constructor
  · intro parts
    simp only [sentinelParts?, Option.bind_eq_bind, Option.bind_eq_some_iff]
      at parts
    rcases parts with
      ⟨rest, after, number, lowLine, last, lowLine', isBegin', lastOf, parts⟩
    split at parts
    · cases parts
    · next nonempty =>
      cases parts
      rcases afterFolded?_eq_some_iff.1 after with ⟨start, rfl, folded⟩
      rcases isBeginOfLetter?_eq_some_iff.1 lastOf with
        ⟨letter, ending, rfl, lower_eq, ended⟩
      refine ⟨⟨start, _, letter, ending, isBegin, folded,
        ⟨by simpa using nonempty, fun point within => ?_⟩, lower_eq, ended⟩,
        ?_, rfl, rfl⟩
      · exact List.mem_takeWhile_imp within
      · rw [Spelling.name, ← Text.append_of_after? lowLine',
          List.takeWhile_append_dropWhile, ← Text.append_of_after? lowLine]
  · rintro ⟨spelling, rfl, rfl, rfl⟩
    exact spelling.sentinelParts?_name

/-! ## Names in another case -/

theorem not_isAsciiLetter_of_mem_ofInt
    {index : Int}
    {point : CodePoint}
    (member : point ∈ Numeral.ofInt index) :
    point.isAsciiLetter = false := by
  cases index with
  | ofNat number =>
      exact CodePoint.not_isAsciiLetter_of_isAsciiDigit
        (Numeral.isAsciiDigit_of_mem_ofNat member)
  | negSucc number =>
      rcases List.mem_cons.1 member with rfl | digit
      · rfl
      · exact CodePoint.not_isAsciiLetter_of_isAsciiDigit
          (Numeral.isAsciiDigit_of_mem_ofNat digit)

/-- The name of a sentinel in another case has the same parts, with the token
and the last letter in another case. -/
theorem equalUpToCase_encode_iff
    {marker : Marker} :
    Text.EqualUpToCase name (token.encode marker) ↔
      ∃ (start : Text) (letter : CodePoint),
        name =
            start ++
              ("_" ++ (Numeral.ofInt marker.index ++ ("_" ++ [letter]))) ∧
          Text.EqualUpToCase start token.text ∧
          letter.toAsciiLower = lastLetter marker.isBegin := by
  have last_eq :
      Text.ofString (if marker.isBegin then "b" else "e") =
        [lastLetter marker.isBegin] := by
    cases marker.isBegin <;> rfl
  constructor
  · intro same
    rcases same.exists_append with ⟨_, last, rfl, same, same_last⟩
    rcases same.exists_append with ⟨_, lowLine', rfl, same, same_lowLine'⟩
    rcases same.exists_append with ⟨_, digits, rfl, same, same_digits⟩
    rcases same.exists_append with
      ⟨start, lowLine, rfl, same_start, same_lowLine⟩
    rw [last_eq] at same_last
    rcases List.map_eq_singleton_iff.1 same_last with ⟨letter, rfl, lower⟩
    refine ⟨start, letter, ?_, same_start, lower.trans ?_⟩
    · rw [same_lowLine.eq_of_no_letters (by decide),
        same_lowLine'.eq_of_no_letters (by decide),
        same_digits.eq_of_no_letters
          fun _ member => not_isAsciiLetter_of_mem_ofInt member]
      simp only [List.append_assoc]
    · cases marker.isBegin <;> rfl
  · rintro ⟨start, letter, rfl, same, lower⟩
    have lower' :
        letter.toAsciiLower = (lastLetter marker.isBegin).toAsciiLower := by
      rw [lower]
      cases marker.isBegin <;> rfl
    unfold Text.EqualUpToCase at same ⊢
    simp only [encode, last_eq, List.map_append, List.map_cons, List.map_nil,
      same, lower', List.append_assoc]

namespace Spelling

/-- The name makes use of ASCII letters and digits only, as written names do. -/
structure IsPlain (spelling : Spelling token) : Prop where
  start : ∀ point ∈ spelling.start, caseVariants.lookup point = none
  digits : ∃ number, spelling.digits = Numeral.ofNat number
  ending : spelling.ending = []

/-- The number of the marker is the value of the digits. -/
structure Denotes (spelling : Spelling token) (marker : Marker) : Prop where
  isBegin_eq : spelling.isBegin = marker.isBegin
  read_eq : ∃ number : Nat,
    Numeral.read spelling.digits = .ok number ∧ marker.index = number

theorem decode_name
    (spelling : Spelling token) :
    token.decode spelling.name =
      (Numeral.read spelling.digits).map fun number =>
        some ⟨number, spelling.isBegin⟩ := by
  rw [decode, spelling.sentinelParts?_name]
  simp only
  cases Numeral.read spelling.digits <;> rfl

theorem decode_name_eq_ok_some_iff
    {spelling : Spelling token}
    {marker : Marker} :
    token.decode spelling.name = .ok (some marker) ↔
      spelling.Denotes marker := by
  rw [decode_name, Outcome.map_eq_ok_iff]
  constructor
  · rintro ⟨number, read_eq, marker_eq⟩
    cases marker_eq
    exact ⟨rfl, number, read_eq, rfl⟩
  · rintro ⟨isBegin_eq, number, read_eq, index_eq⟩
    refine ⟨number, read_eq, ?_⟩
    rw [isBegin_eq, ← index_eq]

/-- A written name is spelled plainly, in whatever case. -/
theorem exists_of_equalUpToCase
    {number : Nat}
    {isBegin : Bool}
    (same : Text.EqualUpToCase name (token.encode ⟨number, isBegin⟩)) :
    ∃ spelling : Spelling token,
      spelling.name = name ∧
        spelling.digits = Numeral.ofNat number ∧
        spelling.isBegin = isBegin ∧
        spelling.IsPlain := by
  rcases equalUpToCase_encode_iff.1 same with
    ⟨start, letter, rfl, same_start, lower⟩
  exact
    ⟨⟨start, Numeral.ofNat number, letter, [], isBegin,
      map_foldCase_eq_of_equalUpToCase same_start,
      Numeral.isNumeral_ofNat number, lower, .inl rfl⟩,
      rfl, rfl, rfl,
      ⟨lookup_caseVariants_of_equalUpToCase same_start, ⟨number, rfl⟩, rfl⟩⟩

/-- A plain spelling is that of a written name in some case. -/
theorem IsPlain.equalUpToCase
    {spelling : Spelling token}
    {marker : Marker}
    (plain : spelling.IsPlain)
    (denotes : spelling.Denotes marker) :
    Text.EqualUpToCase spelling.name (token.encode marker) := by
  rcases plain.digits with ⟨number, digits_eq⟩
  rcases denotes.read_eq with ⟨value, read_eq, index_eq⟩
  rw [digits_eq, Numeral.read_ofNat_eq_ok_iff] at read_eq
  refine equalUpToCase_encode_iff.2
    ⟨spelling.start, spelling.letter, ?_,
      (equalUpToCase_text_iff spelling.folded).2 plain.start,
      denotes.isBegin_eq ▸ spelling.lower_eq⟩
  rw [name, digits_eq, plain.ending, index_eq, read_eq.1]
  rfl

end Spelling

/-- The names that are decoded to a marker are those of the spellings that
denote it. -/
theorem decode_eq_ok_some_iff
    {marker : Marker} :
    token.decode name = .ok (some marker) ↔
      ∃ spelling : Spelling token,
        spelling.name = name ∧ spelling.Denotes marker := by
  constructor
  · intro decoded
    cases parts : token.sentinelParts? name with
    | none =>
        rw [decode, parts] at decoded
        cases decoded
    | some =>
        rcases sentinelParts?_eq_some_iff.1 parts with ⟨spelling, rfl, _⟩
        exact ⟨spelling, rfl, Spelling.decode_name_eq_ok_some_iff.1 decoded⟩
  · rintro ⟨spelling, rfl, denotes⟩
    exact Spelling.decode_name_eq_ok_some_iff.2 denotes

/-- The names that are no sentinels' are those that no spelling has. -/
theorem decode_eq_ok_none_iff :
    token.decode name = .ok none ↔
      ∀ spelling : Spelling token, spelling.name ≠ name := by
  constructor
  · rintro decoded spelling rfl
    rw [spelling.decode_name, Outcome.map_eq_ok_iff] at decoded
    rcases decoded with ⟨number, _, impossible⟩
    cases impossible
  · intro unspelled
    cases parts : token.sentinelParts? name with
    | none => rw [decode, parts]
    | some =>
        rcases sentinelParts?_eq_some_iff.1 parts with ⟨spelling, name_eq, _⟩
        exact absurd name_eq (unspelled spelling)

/--
The names that a token decodes are exactly those that one of its spellings
has, as far as the digits are not too many, and the marker is the one that the
spelling denotes.  Such a name is the one that the token gives to the marker,
up to the case of ASCII letters, exactly if its spelling is plain.
-/
theorem decode_spellings
    (token : MarkerToken)
    (name : Text) :
    (∀ marker,
      (token.decode name = .ok (some marker) ↔
        ∃ spelling : Spelling token,
          spelling.name = name ∧ spelling.Denotes marker) ∧
      (token.decode name = .ok (some marker) ∧
          Text.EqualUpToCase name (token.encode marker) ↔
        ∃ spelling : Spelling token,
          spelling.name = name ∧ spelling.Denotes marker ∧
            spelling.IsPlain)) ∧
    (token.decode name = .ok none ↔
      ∀ spelling : Spelling token, spelling.name ≠ name) := by
  refine ⟨fun marker => ⟨decode_eq_ok_some_iff, ?_⟩, decode_eq_ok_none_iff⟩
  constructor
  · rintro ⟨decoded, same⟩
    rcases decode_eq_ok_some_iff.1 decoded with ⟨_, _, _, number, _, index_eq⟩
    rcases marker with ⟨index, isBegin⟩
    cases index_eq
    rcases Spelling.exists_of_equalUpToCase same with
      ⟨spelling, rfl, _, _, plain⟩
    exact ⟨spelling, rfl, Spelling.decode_name_eq_ok_some_iff.1 decoded, plain⟩
  · rintro ⟨spelling, rfl, denotes, plain⟩
    exact ⟨Spelling.decode_name_eq_ok_some_iff.2 denotes,
      plain.equalUpToCase denotes⟩

/-- A token with a letter that one beyond ASCII passes for. -/
def shortToken : MarkerToken := ⟨"s0", by decide⟩

/-- Names are decoded that differ from the name of the marker by more than
case: by a line feed at the end, a zero in front, a digit of another script,
and a letter beyond ASCII. -/
theorem decode_not_plain :
    shortToken.encode ⟨0, true⟩ = "s0_0_b" ∧
    (shortToken.decode "s0_0_b\n" = .ok (some ⟨0, true⟩) ∧
      ¬ Text.EqualUpToCase "s0_0_b\n" "s0_0_b") ∧
    (shortToken.decode "s0_00_b" = .ok (some ⟨0, true⟩) ∧
      ¬ Text.EqualUpToCase "s0_00_b" "s0_0_b") ∧
    (shortToken.decode "s0_\u0660_b" = .ok (some ⟨0, true⟩) ∧
      ¬ Text.EqualUpToCase "s0_\u0660_b" "s0_0_b") ∧
    (shortToken.decode "\u017f0_0_b" = .ok (some ⟨0, true⟩) ∧
      ¬ Text.EqualUpToCase "\u017f0_0_b" "s0_0_b") := by
  decide +kernel

end AnnotatedSql.Wildcard.MarkerToken
