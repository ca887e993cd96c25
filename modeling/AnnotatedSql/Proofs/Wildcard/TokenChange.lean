import AnnotatedSql.Proofs.Wildcard.Blocks
import AnnotatedSql.Proofs.Wildcard.SentinelName

/-!
# Attribution under another token

Result columns correspond under two tokens if they differ by the names of
sentinels only, where each has the name that its token gives to a marker.
Corresponding names are decoded to the same, so a walk under the one token
goes as the walk under the other does, and leaves corresponding columns.  The
names of sentinels that are left are those of markers with a negative number,
which are not decoded under any token.
-/

namespace AnnotatedSql.Wildcard

namespace MarkerToken

/-- The names of one marker under two tokens, or one name that is no sentinel
under either. -/
inductive Corresponds
    (token token' : MarkerToken)
    (admitted : Marker → Prop) :
    Text → Text → Prop where
  | sentinel
      {marker : Marker}
      (admits : admitted marker) :
      Corresponds token token' admitted (token.encode marker)
        (token'.encode marker)
  | ordinary
      {name : Text}
      (plain : token.Ordinary name)
      (plain' : token'.Ordinary name) :
      Corresponds token token' admitted name name

variable {token token' : MarkerToken}

theorem sentinelParts?_encode
    (token token' : MarkerToken)
    (marker : Marker) :
    token.sentinelParts? (token.encode marker) =
      token'.sentinelParts? (token'.encode marker) := by
  simp only [sentinelParts?, encode, List.append_assoc,
    afterFolded?_append rfl]

/-- The number of a sentinel is missing from a name only if it is negative. -/
theorem index_neg_of_ordinary
    {marker : Marker}
    (plain : token.Ordinary (token.encode marker)) :
    marker.index < 0 := by
  rcases marker with ⟨number | negative, isBegin⟩
  · have parts :
        token.sentinelParts? (token.encode ⟨Int.ofNat number, isBegin⟩) =
          some (Numeral.ofNat number, isBegin) :=
      sentinelParts?_of_equalUpToCase rfl
    unfold Ordinary decode at plain
    rw [parts] at plain
    simp only at plain
    split at plain <;> cases plain
  · exact Int.negSucc_lt_zero negative

namespace Corresponds

variable
    {admitted admitted' : Marker → Prop}
    {name name' : Text}

theorem of_encode_eq
    {marker : Marker}
    (admits : admitted marker)
    (name_eq : token.encode marker = name)
    (name_eq' : token'.encode marker = name') :
    Corresponds token token' admitted name name' := by
  rw [← name_eq, ← name_eq']
  exact .sentinel admits

theorem mono
    (corresponds : Corresponds token token' admitted name name')
    (weaker : ∀ marker, admitted marker → admitted' marker) :
    Corresponds token token' admitted' name name' := by
  cases corresponds with
  | sentinel admits => exact .sentinel (weaker _ admits)
  | ordinary plain plain' => exact .ordinary plain plain'

theorem decode_eq
    (corresponds : Corresponds token token' admitted name name') :
    token'.decode name' = token.decode name := by
  cases corresponds with
  | @sentinel marker _ =>
      rw [decode, decode, sentinelParts?_encode token token' marker]
  | ordinary plain plain' => exact plain'.trans plain.symm

/-- Names that are no sentinels are the same, but for negative numbers. -/
theorem of_ordinary
    (corresponds : Corresponds token token' admitted name name')
    (plain : token.Ordinary name) :
    Corresponds token token'
      (fun marker => admitted marker ∧ marker.index < 0) name name' := by
  cases corresponds with
  | sentinel admits => exact .sentinel ⟨admits, index_neg_of_ordinary plain⟩
  | ordinary _ plain' => exact .ordinary plain plain'

end Corresponds

end MarkerToken

/-- Result columns that differ by the names of sentinels only. -/
structure ColumnsCorrespond
    (token token' : MarkerToken)
    (admitted : Marker → Prop)
    (column column' : ResultColumn) : Prop where
  name : token.Corresponds token' admitted column.name column'.name
  type_eq : column'.type = column.type
  source_eq : column'.source = column.source

theorem ColumnsCorrespond.mono
    {token token' : MarkerToken}
    {admitted admitted' : Marker → Prop}
    {column column' : ResultColumn}
    (correspond : ColumnsCorrespond token token' admitted column column')
    (weaker : ∀ marker, admitted marker → admitted' marker) :
    ColumnsCorrespond token token' admitted' column column' :=
  ⟨correspond.name.mono weaker, correspond.type_eq, correspond.source_eq⟩

/-- Without sentinels left, corresponding result columns are the same. -/
theorem eq_of_columnsCorrespond
    {token token' : MarkerToken}
    {admitted : Marker → Prop}
    (nothing : ∀ marker, ¬ admitted marker)
    {columns columns' : List ResultColumn}
    (correspond :
      List.Forall₂ (ColumnsCorrespond token token' admitted) columns
        columns') :
    columns' = columns ∧
      ∀ column ∈ columns,
        token.Ordinary column.name ∧ token'.Ordinary column.name := by
  induction correspond with
  | nil =>
      refine ⟨rfl, ?_⟩
      rintro column ⟨⟩
  | @cons column column' columns columns' first others induction_hypothesis =>
      rcases first with ⟨name, type_eq, source_eq⟩
      rcases column with ⟨name, type, source⟩
      rcases column' with ⟨name', type', source'⟩
      cases type_eq
      cases source_eq
      cases name with
      | sentinel admits => exact absurd admits (nothing _)
      | ordinary plain plain' =>
          rw [induction_hypothesis.1, List.forall_mem_cons]
          exact ⟨rfl, ⟨plain, plain'⟩, induction_hypothesis.2⟩

namespace Resolution

/-- The same wildcards under another token. -/
def withToken (resolution : Resolution) (token : MarkerToken) : Resolution :=
  { resolution with token }

variable
    {resolution : Resolution}
    {token' : MarkerToken}
    {admitted : Marker → Prop}

theorem agree_attributeColumn
    (span : Span)
    {column column' : ResultColumn}
    (corresponds :
      ColumnsCorrespond resolution.token token' admitted column column') :
    Outcome.Agree
      (ColumnsCorrespond resolution.token token' admitted)
      (attributeColumn span column) (attributeColumn span column') := by
  unfold attributeColumn
  split
  · exact .succeeded ⟨corresponds.name, corresponds.type_eq, rfl⟩
  · exact .failed _ _

theorem agree_openSpan
    (current : Option Span)
    (name name' : Text)
    (index : Int) :
    Outcome.Agree Eq
      (resolution.openSpan current name index)
      ((resolution.withToken token').openSpan current name' index) := by
  cases current with
  | some span => exact .failed _ _
  | none =>
      cases found : resolution.wildcards[index.toNat]? with
      | none =>
          simp only [openSpan, withToken, found]
          exact .failed _ _
      | some wildcard =>
          simp only [openSpan, withToken, found]
          exact .succeeded rfl

/-- Walks over corresponding columns, from the same place of a wildcard. -/
theorem agree_attributeFrom
    {columns columns' : List ResultColumn}
    (correspond :
      List.Forall₂ (ColumnsCorrespond resolution.token token' admitted)
        columns columns')
    (current : Option Span) :
    Outcome.Agree
      (List.Forall₂
        (ColumnsCorrespond resolution.token token'
          fun marker => admitted marker ∧ marker.index < 0))
      (resolution.attributeFrom current columns)
      ((resolution.withToken token').attributeFrom current columns') := by
  induction correspond generalizing current with
  | nil =>
      cases current with
      | none => exact .succeeded .nil
      | some span => exact .failed _ _
  | @cons column column' columns columns' first others induction_hypothesis =>
      have decoded' :
          (resolution.withToken token').token.decode column'.name =
            resolution.token.decode column.name :=
        first.name.decode_eq
      rcases decoded : resolution.token.decode column.name with
        cause | _ | ⟨index, _ | _⟩
      · rw [decoded] at decoded'
        rw [attributeFrom_undecoded current decoded,
          attributeFrom_undecoded current decoded']
        exact .failed _ _
      · rw [decoded] at decoded'
        have kept :
            ColumnsCorrespond resolution.token token'
              (fun marker => admitted marker ∧ marker.index < 0)
              column column' :=
          ⟨first.name.of_ordinary decoded, first.type_eq, first.source_eq⟩
        cases current with
        | none =>
            rw [attributeFrom_outside decoded, attributeFrom_outside decoded']
            exact (induction_hypothesis none).map
              fun _ _ rest => .cons kept rest
        | some span =>
            rw [attributeFrom_inside _ decoded,
              attributeFrom_inside _ decoded']
            exact (agree_attributeColumn span kept).mapError.bind
              fun _ _ attributed =>
                (induction_hypothesis _).map
                  fun _ _ rest => .cons attributed rest
      · rw [decoded] at decoded'
        rw [attributeFrom_end _ decoded, attributeFrom_end _ decoded']
        exact (Outcome.Agree.refl _).mapError.bind
          fun _ _ _ => induction_hypothesis none
      · rw [decoded] at decoded'
        rw [attributeFrom_begin _ decoded, attributeFrom_begin _ decoded']
        refine (agree_openSpan current _ _ index).mapError.bind ?_
        rintro span _ rfl
        exact induction_hypothesis (some span)

end Resolution

end AnnotatedSql.Wildcard
