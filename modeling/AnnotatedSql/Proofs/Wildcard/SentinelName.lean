import AnnotatedSql.Proofs.Wildcard.SentinelSpelling

/-!
# Sentinels survive a change of case

An engine may report an unquoted column name in another case.  A sentinel of
a token decodes to its marker whatever the case of its letters: the token is
compared up to case, the low lines and the digits have no case, and the last
letter is accepted in both.

It does so under no other token.  What stands before the first low line of a
sentinel's name is the token, however the token ends and whatever other token
it begins with.
-/

namespace AnnotatedSql.Wildcard.MarkerToken

/-- A sentinel's name in any case has the digits of its number. -/
theorem sentinelParts?_of_equalUpToCase
    {token : MarkerToken}
    {number : Nat}
    {isBegin : Bool}
    {name : Text}
    (same : Text.EqualUpToCase name (token.encode ⟨number, isBegin⟩)) :
    token.sentinelParts? name = some (Numeral.ofNat number, isBegin) := by
  rcases Spelling.exists_of_equalUpToCase same with
    ⟨spelling, rfl, digits_eq, isBegin_eq, _⟩
  rw [spelling.sentinelParts?_name, digits_eq, isBegin_eq]

/-- A sentinel's name in any case decodes to its marker. -/
theorem decode_of_equalUpToCase
    {token : MarkerToken}
    {number : Nat}
    {isBegin : Bool}
    {name : Text}
    (bounded : number < 10 ^ Numeral.longest)
    (same : Text.EqualUpToCase name (token.encode ⟨number, isBegin⟩)) :
    token.decode name = .ok (some ⟨number, isBegin⟩) := by
  rw [decode, sentinelParts?_of_equalUpToCase same]
  simp only [Numeral.read_ofNat bounded]

/-! ## Sentinels of other tokens -/

/-- A name is a spelling under a token only if it was written under that
token, with a number that is not negative. -/
theorem Spelling.of_equalUpToCase
    {token token' : MarkerToken}
    {marker : Marker}
    (spelling : Spelling token)
    (same : Text.EqualUpToCase spelling.name (token'.encode marker)) :
    Text.EqualUpToCase token.text token'.text ∧ 0 ≤ marker.index := by
  rcases equalUpToCase_encode_iff.1 same with
    ⟨start, letter, name_eq, same_start, _⟩
  have folded := map_foldCase_eq_of_equalUpToCase same_start
  have notLowLine {text : Text} (absent : CodePoint.scalar '_' ∉ text) :
      ∀ point ∈ text, (point != CodePoint.scalar '_') = true :=
    fun point member => bne_iff_ne.2 (ne_of_mem_of_not_mem member absent)
  have stop (rest : Text) :
      ∀ point ∈ (Text.ofString "_" ++ rest).head?,
        (point != CodePoint.scalar '_') = false := by
    rintro point ⟨⟩
    rfl
  rcases Text.append_unique_of_run
    (notLowLine (lowLine_notMem_of_map_foldCase spelling.folded))
    (notLowLine (lowLine_notMem_of_map_foldCase folded))
    (stop _) (stop _) name_eq with ⟨start_eq, behind⟩
  constructor
  · rw [← start_eq, spelling.folded, map_foldCase_text, map_foldCase_text]
      at folded
    exact folded
  · cases index_eq : marker.index with
    | ofNat number => exact Int.natCast_nonneg number
    | negSucc number =>
        -- A negative number is written with a minus sign, which is no digit.
        have digits := List.append_cancel_left behind
        rw [index_eq] at digits
        rcases List.exists_cons_of_ne_nil spelling.isNumeral.nonempty with
          ⟨first, others, digits_eq⟩
        rw [digits_eq] at digits
        have first_eq : first = CodePoint.scalar '-' := (List.cons.inj digits).1
        have decimal := spelling.isNumeral.decimal first
          (digits_eq ▸ List.mem_cons_self)
        rw [first_eq] at decimal
        cases decimal

/--
The name of a sentinel in whatever case decodes to its marker under the tokens
that are equal up to case to the one it was written under, and is no sentinel
under any other token.  The name of a marker with a negative number is no
sentinel under any token.
-/
theorem decode_encode_in_any_case
    (token token' : MarkerToken)
    {marker : Marker}
    (bounded : marker.index < 10 ^ Numeral.longest)
    {name : Text}
    (same : Text.EqualUpToCase name (token'.encode marker)) :
    token.decode name =
      .ok
        (if Text.EqualUpToCase token.text token'.text ∧ 0 ≤ marker.index then
          some marker
        else
          none) := by
  split
  · next agrees =>
    rcases marker with ⟨index, isBegin⟩
    rcases Int.eq_ofNat_of_zero_le agrees.2 with ⟨number, rfl⟩
    rcases equalUpToCase_encode_iff.1 same with
      ⟨start, letter, name_eq, same_start, lower⟩
    have written : Text.EqualUpToCase name (token.encode ⟨number, isBegin⟩) :=
      equalUpToCase_encode_iff.2
        ⟨start, letter, name_eq, same_start.trans agrees.1.symm, lower⟩
    exact
      decode_of_equalUpToCase (Numeral.natCast_lt_ten_pow_iff.1 bounded)
        written
  · next differs =>
    rw [decode_eq_ok_none_iff]
    rintro spelling rfl
    exact differs (spelling.of_equalUpToCase same)

/-- The second token begins with the first and goes on with a digit. -/
theorem decode_encode_in_any_case_longerToken :
    (⟨12, true⟩ : Marker).index < 10 ^ Numeral.longest ∧
    Text.EqualUpToCase "wC0_12_B"
      (MarkerToken.encode ⟨"Wc0", by decide⟩ ⟨12, true⟩) ∧
    MarkerToken.decode ⟨"wc0", by decide⟩ "wC0_12_B" =
      .ok (some ⟨12, true⟩) ∧
    MarkerToken.decode ⟨"wc01", by decide⟩ "wC0_12_B" = .ok none := by
  let written : MarkerToken := ⟨"Wc0", by decide⟩
  have bounded : (⟨12, true⟩ : Marker).index < 10 ^ Numeral.longest :=
    Numeral.natCast_lt_ten_pow_iff.2
      (Nat.lt_of_lt_of_le (by decide : 12 < 10 ^ 2)
        (Nat.pow_le_pow_right (by decide) (by decide)))
  have same : Text.EqualUpToCase "wC0_12_B" (written.encode ⟨12, true⟩) := by
    decide +kernel
  have decoded (token : MarkerToken) :=
    decode_encode_in_any_case token written bounded same
  refine ⟨bounded, same, ?_, ?_⟩
  · rw [decoded, if_pos (by decide)]
  · rw [decoded, if_neg (by decide)]

/-- A token does not decode what it writes for a negative number. -/
theorem decode_encode_negative :
    (⟨-1, true⟩ : Marker).index < 10 ^ Numeral.longest ∧
    MarkerToken.decode ⟨"wc00", by decide⟩
        (MarkerToken.encode ⟨"wc00", by decide⟩ ⟨-1, true⟩) =
      .ok none := by
  refine ⟨?_, by decide +kernel⟩
  have positive : (0 : Int) < 10 ^ Numeral.longest := pow_pos (by decide) _
  exact Int.lt_trans (by decide) positive

end AnnotatedSql.Wildcard.MarkerToken
