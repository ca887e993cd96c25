import AnnotatedSql.Proofs.Sqlite.ForeignKeys
import AnnotatedSql.Proofs.Text.Cutting
import AnnotatedSql.Proofs.Text.Order

/-!
# Foreign keys are made of their rows

The rows of one number are one foreign key.  Its name is the name of its table
and the number, with a low line before the number; since no digit is a low
line, the number is what follows the last one, whatever the name of the table
is, and no two foreign keys of a database share a name.  From the name the
rows of that number are found again, and they alone make up the description.

Each row has a parent column.  If some row does not name one, the parent
columns are those of the parent's primary key, provided that there are as many
of them; so both sides of a described foreign key have one length.
-/

namespace AnnotatedSql.Sqlite

open AnnotatedSql.Schema

/-! ## Names -/

/-- The name of a foreign key of a table. -/
def foreignKeyName
    (table : Text)
    (number : Int) : Text :=
  foreignKeyStem table ++ Numeral.ofInt number

/-- A name is cut at its last low line into its table and its number. -/
theorem foreignKeyName_injective
    {table table' : Text}
    {number number' : Int}
    (natural : 0 ≤ number)
    (natural' : 0 ≤ number')
    (same : foreignKeyName table number = foreignKeyName table' number') :
    table = table' ∧ number = number' := by
  rcases Int.eq_ofNat_of_zero_le natural with ⟨digits, rfl⟩
  rcases Int.eq_ofNat_of_zero_le natural' with ⟨digits', rfl⟩
  -- From behind, the run of digits ends at the low line before it.
  have reversed :
      (Numeral.ofNat digits).reverse ++ (foreignKeyStem table).reverse =
        (Numeral.ofNat digits').reverse ++ (foreignKeyStem table').reverse := by
    rw [← List.reverse_append, ← List.reverse_append]
    exact congrArg List.reverse same
  have isDigit (number : Nat) :
      ∀ point ∈ (Numeral.ofNat number).reverse, point.isAsciiDigit = true :=
    fun point member =>
      Numeral.isAsciiDigit_of_mem_ofNat (List.mem_reverse.1 member)
  have stops (table : Text) :
      ∀ point ∈ (foreignKeyStem table).reverse.head?,
        point.isAsciiDigit = false := by
    have lowLineLast :
        (foreignKeyStem table).reverse =
          CodePoint.scalar '_' :: (Text.ofString "fk_" ++ table).reverse := by
      simp [foreignKeyStem, Text.ofString]
    rw [lowLineLast]
    rintro point ⟨rfl⟩
    decide
  rcases Text.append_unique_of_run (isDigit digits) (isDigit digits')
    (stops table) (stops table') reversed with ⟨digits_eq, stem_eq⟩
  constructor
  · exact List.append_cancel_left
      (List.append_cancel_right (List.reverse_injective stem_eq))
  · rw [Numeral.ofNat_injective (List.reverse_injective digits_eq)]

namespace Database

variable
    {database : Database}
    {table : Text}

/-- Each number is listed once, in ascending order. -/
theorem sortedLT_foreignKeyNumbers :
    (database.foreignKeyNumbers table).SortedLT := by
  rw [List.sortedLT_iff_nodup_and_sortedLE, foreignKeyNumbers,
    List.nodup_mergeSort]
  exact ⟨Lists.nodup_eraseDups _, List.sortedLE_mergeSort⟩

/-! ## Key order -/

/-- The columns of a table's primary key in the order of their places in the
key.  Columns of one place, if there are any, come in the order of their
names. -/
structure InKeyOrder
    (database : Database)
    (table : Text)
    (key : List ColumnRow) : Prop where
  columns :
    key.Perm ((database.columns table).filter fun row =>
      row.keyPosition ≠ 0)
  ascending :
    key.Pairwise fun first second =>
      first.keyPosition < second.keyPosition ∨
        first.keyPosition = second.keyPosition ∧
          Text.lexLe first.name second.name = true

theorem keyOrder_eq_true_iff
    {first second : ColumnRow} :
    keyOrder first second = true ↔
      first.keyPosition < second.keyPosition ∨
        first.keyPosition = second.keyPosition ∧
          Text.lexLe first.name second.name = true := by
  rw [keyOrder]
  split_ifs with same
  · simp [same]
  · simp only [same, false_and, or_false, decide_eq_true_eq]
    exact (Int.lt_iff_le_and_ne.trans (and_iff_left same)).symm

theorem inKeyOrder_mergeSort :
    database.InKeyOrder table
      ((database.keyColumns table).mergeSort keyOrder) where
  columns := by
    refine (List.mergeSort_perm ..).trans (List.Perm.of_eq ?_)
    exact List.filter_congr fun row _ => by simp [bne, beq_eq_decide]
  ascending := by
    have sorted :
        ((database.keyColumns table).mergeSort keyOrder).Pairwise
          fun first second => keyOrder first second = true := by
      apply List.pairwise_mergeSort
      · intro first second third left right
        rw [keyOrder_eq_true_iff] at left right ⊢
        rcases left with less | ⟨same, name_le⟩
        · rcases right with less' | ⟨same', _⟩
          · exact .inl (less.trans less')
          · exact .inl (same' ▸ less)
        · rcases right with less' | ⟨same', name_le'⟩
          · exact .inl (same ▸ less')
          · exact .inr ⟨same.trans same', Text.lexLe_trans name_le name_le'⟩
      · intro first second
        rw [Bool.or_eq_true_iff, keyOrder_eq_true_iff, keyOrder_eq_true_iff]
        rcases lt_trichotomy first.keyPosition second.keyPosition with
          less | same | greater
        · exact .inl (.inl less)
        · rcases Text.lexLe_total first.name second.name with le | le
          · exact .inl (.inr ⟨same, le⟩)
          · exact .inr (.inr ⟨same.symm, le⟩)
        · exact .inr (.inl greater)
    exact sorted.imp keyOrder_eq_true_iff.1

/-! ## Parent columns -/

/--
The parent columns that the rows of a foreign key lead to: those that they
name if all of them do; else those of the parent's primary key if there are
as many; else those that are named, with an empty name in the other places.
-/
inductive LeadTo
    (database : Database)
    (parentTable : Text)
    (rows : List ForeignKeyRow) : List Text → Prop where
  | named
      {columns : List Text}
      (all : rows.map ForeignKeyRow.parentColumn = columns.map some) :
      LeadTo database parentTable rows columns
  | primaryKey
      {key : List ColumnRow}
      (unnamed : none ∈ rows.map ForeignKeyRow.parentColumn)
      (inOrder : database.InKeyOrder parentTable key)
      (asMany : key.length = rows.length) :
      LeadTo database parentTable rows (key.map ColumnRow.name)
  | asFarAsNamed
      {key : List ColumnRow}
      (unnamed : none ∈ rows.map ForeignKeyRow.parentColumn)
      (inOrder : database.InKeyOrder parentTable key)
      (notAsMany : key.length ≠ rows.length) :
      LeadTo database parentTable rows
        (rows.map fun row => row.parentColumn.getD [])

theorem leadTo_parentColumns
    (parentTable : Text)
    (rows : List ForeignKeyRow) :
    database.LeadTo parentTable rows
      (database.parentColumns parentTable rows) := by
  simp only [parentColumns, keyColumnNames, List.length_map]
  split_ifs with unnamed asMany
  · refine .primaryKey ?_ inKeyOrder_mergeSort asMany
    simpa using unnamed
  · refine .asFarAsNamed ?_ inKeyOrder_mergeSort asMany
    simpa using unnamed
  · refine .named ?_
    rw [List.map_map]
    refine List.map_congr_left fun row member => ?_
    cases named : row.parentColumn with
    | some column => simp [named]
    | none =>
        exact absurd
          (List.any_eq_true.2 ⟨row, member, by rw [named]; rfl⟩) unnamed

/-! ## Descriptions -/

/-- The rows of a table that make up the foreign key of a number. -/
def rowsNumbered
    (database : Database)
    (table : Text)
    (number : Int) : List ForeignKeyRow :=
  (database.foreignKeys table).filter fun row => row.number = number

/-- A description that is made of the rows of one foreign key: it has their
child columns in order, the parent table of the first of them, and as many
parent columns. -/
structure MadeOf
    (database : Database)
    (rows : List ForeignKeyRow)
    (description : ForeignKeyDescription) : Prop where
  columns : description.columns = rows.map ForeignKeyRow.childColumn
  parentTable :
    rows.head?.map ForeignKeyRow.parentTable = some description.referencedTable
  paired :
    description.referencedColumns.length = description.columns.length
  parentColumns :
    database.LeadTo description.referencedTable rows
      description.referencedColumns

/-- A foreign key with rows is described by them if its number can be read. -/
theorem exists_madeOf_rowsNumbered
    {number : Int}
    (natural : 0 ≤ number)
    (bounded : number < 10 ^ Numeral.longest)
    (member : ∃ row ∈ database.foreignKeys table, row.number = number) :
    ∃ description,
      database.describeForeignKey table (foreignKeyName table number) =
          .ok description ∧
        database.MadeOf (database.rowsNumbered table number) description := by
  rcases Int.eq_ofNat_of_zero_le natural with ⟨digits, rfl⟩
  have read_eq := Numeral.read_ofNat (Numeral.natCast_lt_ten_pow_iff.1 bounded)
  have number_eq :
      foreignKeyNumber table (foreignKeyName table digits) = .ok digits := by
    have written := foreignKeyNumber_append_ofNat table digits
    rw [read_eq] at written
    exact written
  rw [describeForeignKey, number_eq]
  cases rows_eq : database.rowsNumbered table digits with
  | nil =>
      rcases member with ⟨row, member, number_eq⟩
      have own : row ∈ database.rowsNumbered table digits :=
        List.mem_filter.2 ⟨member, decide_eq_true number_eq⟩
      rw [rows_eq] at own
      exact absurd own List.not_mem_nil
  | cons first others =>
      refine ⟨
        { columns := (first :: others).map ForeignKeyRow.childColumn
          referencedTable := first.parentTable
          referencedColumns :=
            database.parentColumns first.parentTable (first :: others) },
        ?_, ?_⟩
      · rw [rowsNumbered] at rows_eq
        refine Outcome.bind_eq_ok_iff.2 ⟨digits, rfl, ?_⟩
        rw [rows_eq]
        rfl
      · exact
          { columns := rfl
            parentTable := rfl
            paired := by
              rw [length_parentColumns, List.length_map]
            parentColumns := leadTo_parentColumns _ _ }

/--
The foreign keys of a table are listed in the order of their numbers, each
number once, and each listed name is described from the rows of its number.
Names of different foreign keys differ, be they of one table or of two.
-/
theorem foreignKeys_of_rows
    (natural :
      ∀ row ∈ database.foreignKeys table,
        0 ≤ row.number ∧ row.number < 2 ^ 63) :
    (∃ numbers : List Int,
      numbers.SortedLT ∧
        (∀ number,
          number ∈ numbers ↔
            ∃ row ∈ database.foreignKeys table, row.number = number) ∧
        database.foreignKeyNames table =
          numbers.map (foreignKeyName table) ∧
        ∀ number ∈ numbers,
          ∃ description,
            database.describeForeignKey table (foreignKeyName table number) =
                .ok description ∧
              database.MadeOf (database.rowsNumbered table number)
                description) ∧
      ∀ (table' : Text) (number number' : Int),
        0 ≤ number →
          0 ≤ number' →
            foreignKeyName table number = foreignKeyName table' number' →
              table = table' ∧ number = number' := by
  refine ⟨⟨database.foreignKeyNumbers table, sortedLT_foreignKeyNumbers,
    fun number => mem_foreignKeyNumbers_iff, rfl, ?_⟩,
    fun table' number number' => foreignKeyName_injective⟩
  intro number listed
  have member := mem_foreignKeyNumbers_iff.1 listed
  have inRange : 0 ≤ number ∧ number < 2 ^ 63 := by
    rcases member with ⟨row, member, rfl⟩
    exact natural row member
  have short : number < 10 ^ Numeral.longest :=
    calc
      number < 2 ^ 63 := inRange.2
      _ ≤ 10 ^ 63 := by norm_num
      _ ≤ 10 ^ Numeral.longest := pow_le_pow_right₀ (by norm_num) (by decide)
  exact exists_madeOf_rowsNumbered inRange.1 short member

/-- Items of orders.  The order and the line of an item lead to a primary key
whose columns are not in the order of the table, the shop is named in full,
and one parent table is not there. -/
def itemDatabase : Database where
  tableNames := ["item_1", "order"]
  columns table :=
    if table = "order" then
      [⟨"line", "INT", true, 2⟩, ⟨"day", "DATE", true, 0⟩,
        ⟨"id", "INT", true, 1⟩]
    else
      []
  indexes _ := []
  indexColumns _ := []
  foreignKeys table :=
    if table = "item_1" then
      [⟨12, "gone", "extra", none⟩, ⟨0, "shop", "sold_in", some "code"⟩,
        ⟨3, "order", "order_id", none⟩, ⟨3, "order", "order_line", none⟩]
    else
      []

theorem foreignKeys_of_rows_items :
    (∀ row ∈ itemDatabase.foreignKeys "item_1",
        0 ≤ row.number ∧ row.number < 2 ^ 63) ∧
      (∃ numbers : List Int,
        numbers.SortedLT ∧
          (3 ∈ numbers ∧ 12 ∈ numbers ∧ 1 ∉ numbers) ∧
          itemDatabase.foreignKeyNames "item_1" =
            numbers.map (foreignKeyName "item_1")) ∧
      itemDatabase.describeForeignKey "item_1" "fk_item_1_3" =
        .ok ⟨["order_id", "order_line"], "order", ["id", "line"]⟩ ∧
      itemDatabase.describeForeignKey "item_1" "fk_item_1_12" =
        .ok ⟨["extra"], "gone", [""]⟩ := by
  have natural :
      ∀ row ∈ itemDatabase.foreignKeys "item_1",
        0 ≤ row.number ∧ row.number < 2 ^ 63 := by
    decide
  rcases foreignKeys_of_rows natural with
    ⟨⟨numbers, ascending, listed_iff, names_eq, _⟩, _⟩
  refine ⟨natural, ⟨numbers, ascending, ⟨?_, ?_, ?_⟩, names_eq⟩, ?_, ?_⟩
  · exact (listed_iff 3).2 (by decide)
  · exact (listed_iff 12).2 (by decide)
  · exact fun listed => absurd ((listed_iff 1).1 listed) (by decide)
  · cbv
  · cbv

end Database

end AnnotatedSql.Sqlite
