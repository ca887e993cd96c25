import AnnotatedSql.Proofs.Outcome
import AnnotatedSql.Wildcard.Resolution

/-!
# The result columns that wildcards accept

A list of result columns is well bracketed when it can be cut into blocks.
A block is one ordinary column, or the begin sentinel of a registered
wildcard, as many ordinary columns as the wildcard's table has, and the end
sentinel of the same wildcard.

The walk over the columns carries an open wildcard and a counter.  Here it is
compared with the blocks, which know neither.  Reading a whole block puts the
attributed columns of the block in front of those of the rest, and a walk
that succeeds has read blocks only; so the walk accepts exactly the
well-bracketed lists.
-/

namespace AnnotatedSql.Wildcard

/-- A column of a wildcard's table as the result column that shows it. -/
def sourced
    (wildcard : Wildcard)
    (column : ResultColumn)
    (tableColumn : Schema.Column) :
    ResultColumn :=
  ⟨column.name, column.type,
    some ⟨wildcard.table, tableColumn, wildcard.tableAlias⟩⟩

/-- Result columns with the columns of a wildcard's table as their sources. -/
def attributeAll
    (wildcard : Wildcard)
    (columns : List ResultColumn) :
    List ResultColumn :=
  List.zipWith wildcard.sourced columns wildcard.table.columns

/-- The name of a column that is no sentinel of a token. -/
def MarkerToken.Ordinary (token : MarkerToken) (name : Text) : Prop :=
  token.decode name = .ok none

instance (token : MarkerToken) (name : Text) :
    Decidable (token.Ordinary name) :=
  match decoded : token.decode name with
  | .ok none => isTrue decoded
  | .ok (some _) => isFalse (by simp [MarkerToken.Ordinary, decoded])
  | .error _ => isFalse (by simp [MarkerToken.Ordinary, decoded])

/-- The number of a sentinel is never negative. -/
theorem MarkerToken.index_of_decode
    {token : MarkerToken}
    {name : Text}
    {marker : Marker}
    (decoded : token.decode name = .ok (some marker)) :
    ∃ index : Nat, marker.index = index := by
  unfold MarkerToken.decode at decoded
  split at decoded
  · simp at decoded
  · split at decoded
    · next index _ =>
      simp only [Except.ok.injEq, Option.some.injEq] at decoded
      exact ⟨index, by rw [← decoded]⟩
    · simp at decoded

namespace Resolution

/--
A resolution whose wildcards were all added by `Resolution.register`, and
which has not attributed any columns yet.
-/
inductive Registered : Resolution → Prop where
  | fresh (token : MarkerToken) : Registered { token }
  | register
      {resolution : Resolution}
      (table : Schema.Table)
      (tableAlias : Text)
      (earlier : Registered resolution) :
      Registered (resolution.register table tableAlias).2

theorem Registered.unprocessed
    {resolution : Resolution}
    (registered : Registered resolution) :
    resolution.processed = false := by
  induction registered with
  | fresh token => rfl
  | register table tableAlias earlier unprocessed => exact unprocessed

/-- Every wildcard carries its place as its number. -/
theorem Registered.index_eq
    {resolution : Resolution}
    (registered : Registered resolution)
    {place : Nat}
    {wildcard : Wildcard}
    (found : resolution.wildcards[place]? = some wildcard) :
    wildcard.index = place := by
  induction registered generalizing place wildcard with
  | fresh token => simp at found
  | @register resolution table tableAlias earlier index_eq =>
      simp only [Resolution.register] at found
      rcases Nat.lt_trichotomy place resolution.wildcards.length with
        before | last | beyond
      · rw [List.getElem?_append_left before] at found
        exact index_eq found
      · subst last
        simp only [List.getElem?_concat_length, Option.some.injEq] at found
        rw [← found]
      · rw [List.getElem?_eq_none (by simp; omega)] at found
        simp at found

/-! ## Blocks -/

/--
The columns of a registered wildcard between its two sentinels.  The number
in the sentinels is the place of the wildcard among those of the resolution.
-/
structure Bracket (resolution : Resolution) where
  place : Nat
  wildcard : Wildcard
  found : resolution.wildcards[place]? = some wildcard
  opening : ResultColumn
  opens : resolution.token.decode opening.name = .ok (some ⟨place, true⟩)
  inside : List ResultColumn
  plain : ∀ column ∈ inside, resolution.token.Ordinary column.name
  complete : inside.length = wildcard.table.columns.length
  closing : ResultColumn
  closes : resolution.token.decode closing.name = .ok (some ⟨place, false⟩)

/-- A block of result columns. -/
inductive Block (resolution : Resolution) where
  | ordinary
      (column : ResultColumn)
      (plain : resolution.token.Ordinary column.name)
  | bracket (columns : Bracket resolution)

variable {resolution : Resolution}

/-- The columns of a block as the engine reports them. -/
def Block.reported : Block resolution → List ResultColumn
  | .ordinary column _ => [column]
  | .bracket columns =>
      columns.opening :: (columns.inside ++ [columns.closing])

/-- The columns of a block without its sentinels, with their sources. -/
def Block.attributed : Block resolution → List ResultColumn
  | .ordinary column _ => [column]
  | .bracket columns => columns.wildcard.attributeAll columns.inside

/-! ## Reading one column -/

theorem attributeFrom_begin
    (current : Option Span)
    {column : ResultColumn}
    {index : Int}
    (decoded : resolution.token.decode column.name = .ok (some ⟨index, true⟩))
    (columns : List ResultColumn) :
    resolution.attributeFrom current (column :: columns) =
      ((resolution.openSpan current column.name index).mapError .violation >>=
        fun span => resolution.attributeFrom (some span) columns) := by
  cases current <;> rw [attributeFrom, decoded] <;> rfl

theorem attributeFrom_end
    (current : Option Span)
    {column : ResultColumn}
    {index : Int}
    (decoded : resolution.token.decode column.name = .ok (some ⟨index, false⟩))
    (columns : List ResultColumn) :
    resolution.attributeFrom current (column :: columns) =
      ((closeSpan current index).mapError .violation >>=
        fun _ => resolution.attributeFrom none columns) := by
  cases current <;> rw [attributeFrom, decoded] <;> rfl

theorem attributeFrom_outside
    {column : ResultColumn}
    (plain : resolution.token.Ordinary column.name)
    (columns : List ResultColumn) :
    resolution.attributeFrom none (column :: columns) =
      (resolution.attributeFrom none columns).map (column :: ·) := by
  rw [MarkerToken.Ordinary] at plain
  rw [attributeFrom, plain]
  cases resolution.attributeFrom none columns <;> rfl

theorem attributeFrom_inside
    (span : Span)
    {column : ResultColumn}
    (plain : resolution.token.Ordinary column.name)
    (columns : List ResultColumn) :
    resolution.attributeFrom (some span) (column :: columns) =
      ((attributeColumn span column).mapError .violation >>= fun attributed =>
        (resolution.attributeFrom (some ⟨span.wildcard, span.read + 1⟩)
          columns).map (attributed :: ·)) := by
  rw [MarkerToken.Ordinary] at plain
  rw [attributeFrom, plain]
  rfl

theorem attributeFrom_undecoded
    (current : Option Span)
    {column : ResultColumn}
    {cause : Numeral.ReadError}
    (undecoded : resolution.token.decode column.name = .error cause)
    (columns : List ResultColumn) :
    resolution.attributeFrom current (column :: columns) =
      .error (.numeral cause) := by
  cases current <;> rw [attributeFrom, undecoded] <;> rfl

/-! ## Reading a block -/

theorem attributeFrom_opening
    {place : Nat}
    {wildcard : Wildcard}
    (found : resolution.wildcards[place]? = some wildcard)
    {opening : ResultColumn}
    (opens : resolution.token.decode opening.name = .ok (some ⟨place, true⟩))
    (columns : List ResultColumn) :
    resolution.attributeFrom none (opening :: columns) =
      resolution.attributeFrom (some ⟨wildcard, 0⟩) columns := by
  have opened :
      resolution.openSpan none opening.name place = .ok ⟨wildcard, 0⟩ := by
    simp only [openSpan, Int.toNat_natCast, found]
  rw [attributeFrom_begin none opens, opened]
  rfl

theorem attributeFrom_closing
    {wildcard : Wildcard}
    {closing : ResultColumn}
    (closes :
      resolution.token.decode closing.name =
        .ok (some ⟨wildcard.index, false⟩))
    (columns : List ResultColumn) :
    resolution.attributeFrom
        (some ⟨wildcard, wildcard.table.columns.length⟩)
        (closing :: columns) =
      resolution.attributeFrom none columns := by
  have closed :
      closeSpan (some ⟨wildcard, wildcard.table.columns.length⟩)
        wildcard.index = .ok () := by
    simp [closeSpan]
  rw [attributeFrom_end _ closes, closed]
  rfl

/-- Ordinary columns are attributed in turn, from the counter onwards. -/
theorem attributeFrom_inside_append
    {wildcard : Wildcard}
    (read : Nat)
    (inside columns : List ResultColumn)
    (plain : ∀ column ∈ inside, resolution.token.Ordinary column.name)
    (fits : read + inside.length ≤ wildcard.table.columns.length) :
    resolution.attributeFrom (some ⟨wildcard, read⟩) (inside ++ columns) =
      (resolution.attributeFrom (some ⟨wildcard, read + inside.length⟩)
        columns).map
        (List.zipWith wildcard.sourced inside
          (wildcard.table.columns.drop read) ++ ·) := by
  induction inside generalizing read with
  | nil =>
      simp only [List.nil_append, List.length_nil, Nat.add_zero,
        List.zipWith_nil_left]
      cases resolution.attributeFrom (some ⟨wildcard, read⟩) columns <;> rfl
  | cons column inside induction_hypothesis =>
      simp only [List.length_cons] at fits
      have readInside : read < wildcard.table.columns.length := by
        omega
      have attributed :
          attributeColumn ⟨wildcard, read⟩ column =
            .ok (wildcard.sourced column wildcard.table.columns[read]) := by
        simp only [attributeColumn, List.getElem?_eq_getElem readInside]
        rfl
      have counted :
          read + (inside.length + 1) = read + 1 + inside.length := by
        omega
      have later := induction_hypothesis (read + 1)
        (fun column member => plain column (List.mem_cons_of_mem _ member))
        (by omega)
      rw [List.cons_append,
        attributeFrom_inside _ (plain column (List.mem_cons_self ..)),
        attributed, later, List.drop_eq_getElem_cons readInside,
        List.zipWith_cons_cons, List.length_cons, counted]
      cases resolution.attributeFrom
        (some ⟨wildcard, read + 1 + inside.length⟩) columns <;> rfl

/-- Reading a block puts its attributed columns in front of the others. -/
theorem attributeFrom_block
    (registered : Registered resolution)
    (block : Block resolution)
    (columns : List ResultColumn) :
    resolution.attributeFrom none (block.reported ++ columns) =
      (resolution.attributeFrom none columns).map (block.attributed ++ ·) := by
  cases block with
  | ordinary column plain =>
      rw [Block.reported, List.singleton_append,
        attributeFrom_outside plain columns]
      rfl
  | bracket bracket =>
      have index_eq := registered.index_eq bracket.found
      have closes := bracket.closes
      rw [← index_eq] at closes
      rw [Block.reported, List.cons_append, List.append_assoc,
        List.singleton_append,
        attributeFrom_opening bracket.found bracket.opens,
        attributeFrom_inside_append 0 bracket.inside _ bracket.plain
          (Nat.le_of_eq (by rw [Nat.zero_add, bracket.complete])),
        Nat.zero_add, bracket.complete, attributeFrom_closing closes]
      rfl

/-- The walk accepts every list of blocks. -/
theorem attributed_flatMap_reported
    (registered : Registered resolution)
    (blocks : List (Block resolution)) :
    resolution.attributed (blocks.flatMap Block.reported) =
      .ok (blocks.flatMap Block.attributed) := by
  induction blocks with
  | nil => rfl
  | cons block blocks induction_hypothesis =>
      rw [attributed] at induction_hypothesis
      rw [attributed, List.flatMap_cons, List.flatMap_cons,
        attributeFrom_block registered, induction_hypothesis]
      rfl

/-! ## Cutting a list into blocks -/

/-- Every name that an accepting walk meets decodes. -/
theorem decode_of_attributeFrom
    {current : Option Span}
    {column : ResultColumn}
    {columns result : List ResultColumn}
    (accepted :
      resolution.attributeFrom current (column :: columns) = .ok result) :
    ∃ marker?, resolution.token.decode column.name = .ok marker? := by
  cases decoded : resolution.token.decode column.name with
  | ok marker? => exact ⟨marker?, rfl⟩
  | error cause =>
      rw [attributeFrom_undecoded current decoded] at accepted
      exact nomatch accepted

theorem closeSpan_eq_ok
    {wildcard : Wildcard}
    {read : Nat}
    {index : Int}
    (closed : closeSpan (some ⟨wildcard, read⟩) index = .ok ()) :
    index = wildcard.index ∧ read = wildcard.table.columns.length := by
  simp only [closeSpan] at closed
  by_cases same : index = wildcard.index
  · by_cases complete : read = wildcard.table.columns.length
    · exact ⟨same, complete⟩
    · simp [same, complete] at closed
  · simp [same] at closed

theorem openSpan_eq_ok
    {wildcard : Wildcard}
    {name : Text}
    {read place : Nat}
    (opened : resolution.openSpan none name place = .ok ⟨wildcard, read⟩) :
    resolution.wildcards[place]? = some wildcard ∧ read = 0 := by
  unfold openSpan at opened
  split at opened
  · next impossible => simp at impossible
  · split at opened
    · next found =>
      cases opened
      exact ⟨by simpa using found, rfl⟩
    · simp at opened

theorem attributeColumn_eq_ok
    {span : Span}
    {column attributed : ResultColumn}
    (accepted : attributeColumn span column = .ok attributed) :
    span.read < span.wildcard.table.columns.length := by
  unfold attributeColumn at accepted
  split at accepted
  · next found =>
    exact (List.getElem?_eq_some_iff.1 found).1
  · simp at accepted

/--
An open wildcard that is accepted is closed by its own end sentinel behind
the ordinary columns that its table still lacks.
-/
theorem closing_of_attributeFrom
    {wildcard : Wildcard}
    {read : Nat}
    {columns result : List ResultColumn}
    (accepted :
      resolution.attributeFrom (some ⟨wildcard, read⟩) columns = .ok result) :
    ∃ (inside : List ResultColumn) (closing : ResultColumn)
        (later : List ResultColumn),
      columns = inside ++ closing :: later ∧
        (∀ column ∈ inside, resolution.token.Ordinary column.name) ∧
        read + inside.length = wildcard.table.columns.length ∧
        resolution.token.decode closing.name =
          .ok (some ⟨wildcard.index, false⟩) ∧
        ∃ laterResult,
          resolution.attributeFrom none later = .ok laterResult := by
  induction columns generalizing read result with
  | nil => simp [attributeFrom] at accepted
  | cons column columns induction_hypothesis =>
      rcases decode_of_attributeFrom accepted with ⟨marker?, decoded⟩
      rcases marker? with _ | ⟨index, _ | _⟩
      · rw [attributeFrom_inside _ decoded, Outcome.bind_eq_ok_iff] at accepted
        rcases accepted with ⟨_, columnRead, rest⟩
        rcases Outcome.map_eq_ok_iff.1 rest with ⟨_, rest, _⟩
        have inTable :=
          attributeColumn_eq_ok (Outcome.mapError_eq_ok_iff.1 columnRead)
        rcases induction_hypothesis rest with
          ⟨inside, closing, later, rfl, plain, complete, closes, rest⟩
        refine ⟨column :: inside, closing, later, rfl, ?_, ?_, closes, rest⟩
        · rintro column' (_ | member)
          · exact decoded
          · exact plain column' ‹_›
        · simp only [List.length_cons] at *
          omega
      · rw [attributeFrom_end _ decoded, Outcome.bind_eq_ok_iff] at accepted
        rcases accepted with ⟨_, closed, later⟩
        rcases closeSpan_eq_ok (Outcome.mapError_eq_ok_iff.1 closed) with
          ⟨rfl, complete⟩
        exact ⟨[], column, columns, rfl, by simp, complete, decoded, result,
          later⟩
      · rw [attributeFrom_begin _ decoded] at accepted
        exact nomatch accepted

/-- The walk accepts lists of blocks only. -/
theorem exists_blocks_of_attributeFrom
    (registered : Registered resolution)
    {columns result : List ResultColumn}
    (accepted : resolution.attributeFrom none columns = .ok result) :
    ∃ blocks : List (Block resolution),
      columns = blocks.flatMap Block.reported := by
  match columns with
  | [] => exact ⟨[], rfl⟩
  | column :: columns =>
      rcases decode_of_attributeFrom accepted with ⟨marker?, decoded⟩
      rcases marker? with _ | ⟨index, _ | _⟩
      · rw [attributeFrom_outside decoded, Outcome.map_eq_ok_iff] at accepted
        rcases accepted with ⟨laterResult, later, _⟩
        rcases exists_blocks_of_attributeFrom registered later with
          ⟨blocks, rfl⟩
        exact ⟨.ordinary column decoded :: blocks, rfl⟩
      · rw [attributeFrom_end _ decoded] at accepted
        exact nomatch accepted
      · rw [attributeFrom_begin _ decoded, Outcome.bind_eq_ok_iff] at accepted
        rcases accepted with ⟨⟨wildcard, read⟩, opened, accepted⟩
        obtain ⟨place, rfl⟩ : ∃ place : Nat, index = place :=
          MarkerToken.index_of_decode decoded
        rcases openSpan_eq_ok (Outcome.mapError_eq_ok_iff.1 opened) with
          ⟨found, rfl⟩
        rcases closing_of_attributeFrom accepted with
          ⟨inside, closing, later, rfl, plain, complete, closes, laterResult,
            laterAccepted⟩
        rcases exists_blocks_of_attributeFrom registered laterAccepted with
          ⟨blocks, rfl⟩
        rw [registered.index_eq found] at closes
        let bracket : Bracket resolution :=
          { place, wildcard, found, opening := column, opens := decoded,
            inside, plain, complete := by omega, closing, closes }
        refine ⟨.bracket bracket :: blocks, ?_⟩
        simp [Block.reported, bracket]
termination_by columns.length

/-! ## What the columns keep -/

/-- What an engine says of a result column: its name and its type. -/
def shown (column : ResultColumn) : Text × Schema.ColumnType :=
  (column.name, column.type)

/-- The columns of a list that are no sentinels of the resolution. -/
def ordinaryOf
    (resolution : Resolution)
    (columns : List ResultColumn) :
    List ResultColumn :=
  columns.filter fun column => resolution.token.Ordinary column.name

@[simp]
theorem map_shown_attributeAll
    {wildcard : Wildcard}
    {inside : List ResultColumn}
    (complete : inside.length = wildcard.table.columns.length) :
    (wildcard.attributeAll inside).map shown = inside.map shown := by
  rw [attributeAll, List.map_zipWith]
  apply List.ext_getElem
  · simp [complete]
  · intro place _ _
    simp [shown, sourced]

/-- A block keeps its ordinary columns, in order and as they are shown. -/
theorem Block.map_shown_attributed
    (block : Block resolution) :
    block.attributed.map shown =
      (resolution.ordinaryOf block.reported).map shown := by
  cases block with
  | ordinary column plain =>
      simp [Block.attributed, Block.reported, ordinaryOf, plain]
  | bracket bracket =>
      have notOpening :
          ¬ resolution.token.Ordinary bracket.opening.name := by
        simp [MarkerToken.Ordinary, bracket.opens]
      have notClosing :
          ¬ resolution.token.Ordinary bracket.closing.name := by
        simp [MarkerToken.Ordinary, bracket.closes]
      have allInside :
          bracket.inside.filter
              (fun column => resolution.token.Ordinary column.name) =
            bracket.inside := by
        simpa using bracket.plain
      simp only [Block.attributed, Block.reported, ordinaryOf,
        List.filter_cons, List.filter_append, notOpening, notClosing,
        decide_false, allInside, List.filter_nil, List.append_nil,
        Bool.false_eq_true, if_false]
      exact map_shown_attributeAll bracket.complete

theorem map_shown_flatMap_attributed
    (blocks : List (Block resolution)) :
    (blocks.flatMap Block.attributed).map shown =
      (resolution.ordinaryOf (blocks.flatMap Block.reported)).map shown := by
  induction blocks with
  | nil => rfl
  | cons block blocks induction_hypothesis =>
      rw [List.flatMap_cons, List.map_append, block.map_shown_attributed,
        induction_hypothesis, List.flatMap_cons, ordinaryOf, ordinaryOf,
        ordinaryOf, List.filter_append, List.map_append]

/-- What is shown like ordinary columns is ordinary. -/
theorem ordinary_of_map_shown_eq
    {result columns : List ResultColumn}
    (same : result.map shown = (resolution.ordinaryOf columns).map shown) :
    ∀ column ∈ result, resolution.token.Ordinary column.name := by
  intro column member
  have shownMember :
      shown column ∈ (resolution.ordinaryOf columns).map shown := by
    rw [← same]
    exact List.mem_map_of_mem member
  rcases List.mem_map.1 shownMember with ⟨column', member', shown_eq⟩
  have name_eq : column'.name = column.name := congrArg Prod.fst shown_eq
  rw [← name_eq]
  simpa [ordinaryOf] using (List.mem_filter.1 member').2

/-! ## Failures -/

theorem violation_of_mapError
    {Value : Type}
    {outcome : Except ProtocolError Value}
    {error : AttributionError}
    (refused : outcome.mapError .violation = .error error) :
    ∃ violation, error = .violation violation := by
  rcases Outcome.mapError_eq_error_iff.1 refused with ⟨violation, _, rfl⟩
  exact ⟨violation, rfl⟩

/-- A walk fails by a violation of the protocol or by a name that does not
decode. -/
theorem cause_of_attributeFrom
    {current : Option Span}
    {columns : List ResultColumn}
    {error : AttributionError}
    (refused : resolution.attributeFrom current columns = .error error) :
    (∃ violation, error = .violation violation) ∨
      ∃ column ∈ columns, ∃ cause,
        resolution.token.decode column.name = .error cause ∧
          error = .numeral cause := by
  induction columns generalizing current with
  | nil =>
      cases current with
      | none => exact nomatch refused
      | some span =>
          cases refused
          exact .inl ⟨_, rfl⟩
  | cons column columns induction_hypothesis =>
      have later
          {current : Option Span}
          (refused : resolution.attributeFrom current columns = .error error) :
          (∃ violation, error = .violation violation) ∨
            ∃ column' ∈ column :: columns, ∃ cause,
              resolution.token.decode column'.name = .error cause ∧
                error = .numeral cause := by
        rcases induction_hypothesis refused with
          violated | ⟨column', member, cause⟩
        · exact .inl violated
        · exact .inr ⟨column', List.mem_cons_of_mem _ member, cause⟩
      rcases decoded : resolution.token.decode column.name with
        cause | _ | ⟨index, _ | _⟩
      · rw [attributeFrom_undecoded current decoded] at refused
        cases refused
        exact .inr ⟨column, List.mem_cons_self, cause, decoded, rfl⟩
      · cases current with
        | none =>
            rw [attributeFrom_outside decoded, Outcome.map_eq_error_iff]
              at refused
            exact later refused
        | some span =>
            rw [attributeFrom_inside _ decoded, Outcome.bind_eq_error_iff]
              at refused
            rcases refused with refused | ⟨_, _, refused⟩
            · exact .inl (violation_of_mapError refused)
            · exact later (Outcome.map_eq_error_iff.1 refused)
      · rw [attributeFrom_end _ decoded, Outcome.bind_eq_error_iff] at refused
        rcases refused with refused | ⟨_, _, refused⟩
        · exact .inl (violation_of_mapError refused)
        · exact later refused
      · rw [attributeFrom_begin _ decoded, Outcome.bind_eq_error_iff] at refused
        rcases refused with refused | ⟨_, _, refused⟩
        · exact .inl (violation_of_mapError refused)
        · exact later refused

/-- A walk over names that decode fails by a violation of the protocol only. -/
theorem violation_of_attributeFrom
    {current : Option Span}
    {columns : List ResultColumn}
    {error : AttributionError}
    (classified :
      ∀ column ∈ columns,
        ∃ marker?, resolution.token.decode column.name = .ok marker?)
    (refused : resolution.attributeFrom current columns = .error error) :
    ∃ violation, error = .violation violation := by
  rcases cause_of_attributeFrom refused with
    violated | ⟨column, member, cause, undecoded, _⟩
  · exact violated
  · rcases classified column member with ⟨marker?, decoded⟩
    rw [decoded] at undecoded
    cases undecoded

/-! ## Well-bracketed columns -/

/-- The columns are a concatenation of blocks. -/
def WellBracketed
    (resolution : Resolution)
    (columns : List ResultColumn) : Prop :=
  ∃ blocks : List (Block resolution), columns = blocks.flatMap Block.reported

/-- The walk accepts the well-bracketed columns, and attributes their blocks. -/
theorem attributed_eq_ok_iff
    (registered : Registered resolution)
    {columns result : List ResultColumn} :
    resolution.attributed columns = .ok result ↔
      ∃ blocks : List (Block resolution),
        columns = blocks.flatMap Block.reported ∧
          result = blocks.flatMap Block.attributed := by
  constructor
  · intro accepted
    rcases exists_blocks_of_attributeFrom registered accepted with ⟨blocks, rfl⟩
    refine ⟨blocks, rfl, ?_⟩
    rw [attributed_flatMap_reported registered] at accepted
    exact (Except.ok.inj accepted).symm
  · rintro ⟨blocks, rfl, rfl⟩
    exact attributed_flatMap_reported registered blocks

theorem process_eq_ok_iff
    (unprocessed : resolution.processed = false)
    {columns result : List ResultColumn}
    {after : Resolution} :
    resolution.process columns = (.ok (), result, after) ↔
      resolution.attributed columns = .ok result ∧
        after = { resolution with processed := true } := by
  simp only [process, unprocessed, Bool.false_eq_true, if_false]
  cases resolution.attributed columns with
  | error error => simp
  | ok attributed => simp [eq_comm]

/--
Columns whose names decode are processed exactly when they are well
bracketed.  Then the ordinary columns are left, as they were shown: those
inside the block of a wildcard with the columns of its table as their
sources, in order, and all others as they were.  Any other columns violate
the sentinel protocol, and nothing changes.
-/
theorem process_wellBracketed
    (registered : Registered resolution)
    (columns : List ResultColumn)
    (classified :
      ∀ column ∈ columns,
        ∃ marker?, resolution.token.decode column.name = .ok marker?) :
    ((resolution.process columns).1 = .ok () ↔
        resolution.WellBracketed columns) ∧
      (∀ (result : List ResultColumn) (after : Resolution),
        resolution.process columns = (.ok (), result, after) ↔
          ∃ blocks : List (Block resolution),
            columns = blocks.flatMap Block.reported ∧
              result = blocks.flatMap Block.attributed ∧
              after = { resolution with processed := true }) ∧
      (∀ (result : List ResultColumn) (after : Resolution),
        resolution.process columns = (.ok (), result, after) →
          result.map shown = (resolution.ordinaryOf columns).map shown ∧
            ∀ column ∈ result, resolution.token.Ordinary column.name) ∧
      (¬ resolution.WellBracketed columns →
        ∃ violation : ProtocolError,
          resolution.process columns =
            (.error (.violation violation), columns, resolution)) := by
  have accepted (result : List ResultColumn) (after : Resolution) :
      resolution.process columns = (.ok (), result, after) ↔
        ∃ blocks : List (Block resolution),
          columns = blocks.flatMap Block.reported ∧
            result = blocks.flatMap Block.attributed ∧
            after = { resolution with processed := true } := by
    rw [process_eq_ok_iff registered.unprocessed,
      attributed_eq_ok_iff registered]
    constructor
    · rintro ⟨⟨blocks, cut, attributed⟩, processed⟩
      exact ⟨blocks, cut, attributed, processed⟩
    · rintro ⟨blocks, cut, attributed, processed⟩
      exact ⟨⟨blocks, cut, attributed⟩, processed⟩
  refine ⟨⟨?_, ?_⟩, accepted, ?_, ?_⟩
  · intro succeeded
    rcases (accepted _ _).1 (Prod.ext succeeded rfl) with ⟨blocks, cut, _⟩
    exact ⟨blocks, cut⟩
  · rintro ⟨blocks, cut⟩
    rw [(accepted _ _).2 ⟨blocks, cut, rfl, rfl⟩]
  · intro result after succeeded
    rcases (accepted _ _).1 succeeded with ⟨blocks, rfl, rfl, _⟩
    have same := map_shown_flatMap_attributed blocks
    exact ⟨same, ordinary_of_map_shown_eq same⟩
  · intro notBracketed
    cases walked : resolution.attributed columns with
    | ok result =>
        rcases (attributed_eq_ok_iff registered).1 walked with ⟨blocks, cut, _⟩
        exact absurd ⟨blocks, cut⟩ notBracketed
    | error error =>
        rcases violation_of_attributeFrom classified walked with
          ⟨violation, rfl⟩
        refine ⟨violation, ?_⟩
        simp [process, registered.unprocessed, walked]

/-- Two wildcards over one table of two columns. -/
def selfJoin : Resolution :=
  let user : Schema.Table :=
    { name := "user"
      columns := [⟨"id", 0, .unknown⟩, ⟨"name", 1, .unknown⟩]
      columnPlaces := [("id", 0), ("name", 1)] }
  ((register { token := ⟨"wctest", by decide⟩ } user "x").2.register user "y").2

/-- The second wildcard's columns, one of no table, and the first one's. -/
def selfJoinColumns : List ResultColumn :=
  [⟨"WCTEST_1_B", .unknown, none⟩, ⟨"id", .unknown, none⟩,
    ⟨"name", .unknown, none⟩, ⟨"wctest_1_e", .unknown, none⟩,
    ⟨"count", .unknown, none⟩, ⟨"wctest_0_b", .unknown, none⟩,
    ⟨"id", .unknown, none⟩, ⟨"name", .unknown, none⟩,
    ⟨"wctest_0_e", .unknown, none⟩]

theorem process_wellBracketed_selfJoin :
    selfJoin.Registered ∧
      (∀ column ∈ selfJoinColumns,
        ∃ marker?, selfJoin.token.decode column.name = .ok marker?) ∧
      (selfJoin.process selfJoinColumns).1 = .ok () ∧
      selfJoin.WellBracketed selfJoinColumns := by
  have registered : selfJoin.Registered :=
    .register _ _ (.register _ _ (.fresh _))
  have classified :
      ∀ column ∈ selfJoinColumns,
        ∃ marker?, selfJoin.token.decode column.name = .ok marker? := by
    simp only [selfJoinColumns, List.forall_mem_cons]
    exact ⟨⟨_, rfl⟩, ⟨_, rfl⟩, ⟨_, rfl⟩, ⟨_, rfl⟩, ⟨_, rfl⟩, ⟨_, rfl⟩,
      ⟨_, rfl⟩, ⟨_, rfl⟩, ⟨_, rfl⟩, by simp⟩
  have succeeded : (selfJoin.process selfJoinColumns).1 = .ok () := by
    rfl
  exact ⟨registered, classified, succeeded,
    (process_wellBracketed registered selfJoinColumns classified).1.1
      succeeded⟩

end Resolution

end AnnotatedSql.Wildcard
