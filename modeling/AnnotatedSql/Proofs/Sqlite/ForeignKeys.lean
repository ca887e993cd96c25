import AnnotatedSql.Proofs.Lists
import AnnotatedSql.Proofs.Outcome
import AnnotatedSql.Proofs.Text.Numeral
import AnnotatedSql.Sqlite.Engine

/-!
# The names of foreign keys

SQLite numbers the foreign keys of a table, and the engine names them after
the table and their number.  A name leads back to its number, so every listed
foreign key is described from its own rows and no two of them share a name.
The one limit is that of numerals: a number that is too long is not read back.
-/

namespace AnnotatedSql.Sqlite

/-! ## Listed names -/

namespace Database

variable
    {database : Database}
    {table : Text}

theorem mem_foreignKeyNumbers_iff
    {number : Int} :
    number ∈ database.foreignKeyNumbers table ↔
      ∃ row ∈ database.foreignKeys table, row.number = number := by
  rw [foreignKeyNumbers, List.mem_mergeSort, List.mem_eraseDups, List.mem_map]

/-- The foreign keys of a table have different names. -/
theorem nodup_foreignKeyNames : (database.foreignKeyNames table).Nodup := by
  rw [foreignKeyNames]
  refine List.Nodup.map ?_ ?_
  · intro number number' same
    exact Numeral.ofInt_injective (List.append_cancel_left same)
  · rw [foreignKeyNumbers, List.nodup_mergeSort]
    exact Lists.nodup_eraseDups _

/-- Each row belongs to a foreign key that is listed, and each listed foreign
key has a row. -/
theorem mem_foreignKeyNames_iff
    {name : Text} :
    name ∈ database.foreignKeyNames table ↔
      ∃ row ∈ database.foreignKeys table,
        foreignKeyStem table ++ Numeral.ofInt row.number = name := by
  rw [foreignKeyNames, List.mem_map]
  constructor
  · rintro ⟨number, listed, name_eq⟩
    rcases mem_foreignKeyNumbers_iff.1 listed with ⟨row, member, rfl⟩
    exact ⟨row, member, name_eq⟩
  · rintro ⟨row, member, name_eq⟩
    exact ⟨row.number, mem_foreignKeyNumbers_iff.2 ⟨row, member, rfl⟩, name_eq⟩

/-! ## Described foreign keys -/

/-- The number in a name is read as the number that was written. -/
theorem foreignKeyNumber_append_ofNat
    (table : Text)
    (number : Nat) :
    foreignKeyNumber table (foreignKeyStem table ++ Numeral.ofNat number) =
      (Numeral.read (Numeral.ofNat number)).mapError .numeral := by
  have digits : (Numeral.ofNat number).all CodePoint.isDigit = true := by
    rw [List.all_eq_true]
    intro point member
    rw [CodePoint.isDigit, Numeral.isDecimal_of_mem_ofNat member, Bool.true_or]
  have nonempty : (Numeral.ofNat number).isEmpty = false :=
    List.isEmpty_eq_false_iff.2 (Numeral.ofNat_ne_nil number)
  simp only [foreignKeyNumber, Text.after?_append, digits, nonempty]
  rfl

/-- A listed foreign key is described exactly if its number is not too
long. -/
theorem exists_describeForeignKey_eq_ok_iff
    {row : ForeignKeyRow}
    (member : row ∈ database.foreignKeys table)
    (natural : 0 ≤ row.number) :
    (∃ description,
      database.describeForeignKey table
        (foreignKeyStem table ++ Numeral.ofInt row.number) =
          .ok description) ↔
      row.number < 10 ^ Numeral.longest := by
  rcases Int.eq_ofNat_of_zero_le natural with ⟨number, number_eq⟩
  have written : Numeral.ofInt row.number = Numeral.ofNat number := by
    rw [number_eq]
    rfl
  have own : row ∈ (database.foreignKeys table).filter fun row =>
      row.number = (number : Int) := by
    rw [List.mem_filter]
    exact ⟨member, decide_eq_true number_eq⟩
  rw [written, number_eq, Numeral.natCast_lt_ten_pow_iff]
  simp only [describeForeignKey, foreignKeyNumber_append_ofNat,
    Outcome.bind_eq_ok_iff, Outcome.mapError_eq_ok_iff,
    Numeral.read_ofNat_eq_ok_iff]
  constructor
  · rintro ⟨description, value, ⟨_, bounded⟩, _⟩
    exact bounded
  · intro bounded
    cases rows_eq : (database.foreignKeys table).filter fun row =>
        row.number = (number : Int) with
    | nil =>
        rw [rows_eq] at own
        exact absurd own List.not_mem_nil
    | cons first others =>
        refine ⟨
          { columns := (first :: others).map ForeignKeyRow.childColumn
            referencedTable := first.parentTable
            referencedColumns :=
              database.parentColumns first.parentTable (first :: others) },
          number, ⟨rfl, bounded⟩, ?_⟩
        rw [rows_eq]
        rfl

@[simp]
theorem length_parentColumns
    (parentTable : Text)
    (rows : List ForeignKeyRow) :
    (database.parentColumns parentTable rows).length = rows.length := by
  simp only [parentColumns]
  split
  · split
    · next same_length => exact same_length
    · exact List.length_map ..
  · exact List.length_map ..

/-- A described foreign key leads from columns of its rows to as many parent
columns. -/
theorem paired_of_describeForeignKey
    {foreignKey : Text}
    {description : Schema.ForeignKeyDescription}
    (described :
      database.describeForeignKey table foreignKey = .ok description) :
    description.columns.length = description.referencedColumns.length ∧
      ∀ name ∈ description.columns,
        ∃ row ∈ database.foreignKeys table, row.childColumn = name := by
  rw [describeForeignKey, Outcome.bind_eq_ok_iff] at described
  rcases described with ⟨number, _, described⟩
  split at described
  · exact nomatch described
  · next first others rows_eq =>
    cases described
    constructor
    · rw [List.length_map, length_parentColumns]
    · intro name member
      rw [← rows_eq, List.mem_map] at member
      rcases member with ⟨row, member, name_eq⟩
      exact ⟨row, List.mem_of_mem_filter member, name_eq⟩

end Database

end AnnotatedSql.Sqlite
