import AnnotatedSql.Proofs.Schema.Loading

/-!
# A loaded catalog has been reported

An engine need not answer every question; what it is never asked about, or
answers about tables that are not loaded, does not matter.  Once a catalog is
loaded, however, every question that loading asks has been answered.  The
answers make up reports, which are consistent, and the catalog mirrors them.

So whatever holds of all reports that an engine can give, in the order of its
lists, holds of the tables of a loaded catalog.
-/

namespace AnnotatedSql.Schema.Catalog

variable
    {engine : Engine}
    {accepts : Text → Bool}

/-! ## What loading has asked -/

/-- An index that was added had been described. -/
theorem exists_describeIndex_of_loadIndex
    {table extended : Table}
    {index : Text}
    (loaded : loadIndex engine table index = .ok extended) :
    ∃ described, engine.describeIndex table.name index = .ok described := by
  simp only [loadIndex, Outcome.bind_eq_ok_iff,
    Outcome.mapError_eq_ok_iff] at loaded
  rcases loaded with ⟨described, answered, _⟩
  exact ⟨described, answered⟩

/-- A foreign key that was added had been described. -/
theorem exists_describeForeignKey_of_loadForeignKey
    {table extended : Table}
    {foreignKey : Text}
    (loaded : loadForeignKey engine table foreignKey = .ok extended) :
    ∃ described,
      engine.describeForeignKey table.name foreignKey = .ok described := by
  simp only [loadForeignKey, Outcome.bind_eq_ok_iff,
    Outcome.mapError_eq_ok_iff] at loaded
  rcases loaded with ⟨described, answered, _⟩
  exact ⟨described, answered⟩

/-- The keys of a table were added to it one by one, so all of them had been
described. -/
theorem exists_descriptions_of_loadKeys
    {table extended : Table}
    {indexes : List Text}
    (loaded : loadKeys engine indexes table = .ok extended) :
    (∀ index ∈ indexes,
        ∃ described, engine.describeIndex table.name index = .ok described) ∧
      ∀ foreignKey ∈ engine.foreignKeyNames table.name,
        ∃ described,
          engine.describeForeignKey table.name foreignKey = .ok described := by
  rw [loadKeys, Outcome.bind_eq_ok_iff] at loaded
  rcases loaded with ⟨indexed, indexesLoaded, foreignKeysLoaded⟩
  have indexKeeps :
      ∀ (state : Table), ∀ index ∈ indexes, ∀ (next : Table),
        loadIndex engine state index = .ok next →
          state.name = table.name → next.name = table.name := by
    intro state index _ next stepped name_eq
    exact (name_eq_of_loadIndex stepped).trans name_eq
  have foreignKeyKeeps :
      ∀ (state : Table), ∀ foreignKey ∈ engine.foreignKeyNames table.name,
        ∀ (next : Table), loadForeignKey engine state foreignKey = .ok next →
          state.name = table.name → next.name = table.name := by
    intro state foreignKey _ next stepped name_eq
    exact (name_eq_of_loadForeignKey stepped).trans name_eq
  have indexed_name : indexed.name = table.name :=
    Outcome.foldlM_induction (fun state => state.name = table.name)
      indexKeeps rfl indexesLoaded
  constructor
  · intro index member
    rcases Outcome.exists_step_of_foldlM
      (fun state => state.name = table.name) indexKeeps rfl indexesLoaded
      index member with ⟨state, next, name_eq, stepped⟩
    rw [← name_eq]
    exact exists_describeIndex_of_loadIndex stepped
  · intro foreignKey member
    rcases Outcome.exists_step_of_foldlM
      (fun state => state.name = table.name) foreignKeyKeeps indexed_name
      foreignKeysLoaded foreignKey member with ⟨state, next, name_eq, stepped⟩
    rw [← name_eq]
    exact exists_describeForeignKey_of_loadForeignKey stepped

/-! ## Reports of what is loaded -/

/-- What an engine has answered about a loaded table is a report of it. -/
theorem exists_report_of_loadTable
    {name : Text}
    {table : Table}
    (loaded : (loadTable engine name).1 = .ok table) :
    ∃ report, TableReport.name report = name ∧ engine.Describes report := by
  rw [fst_loadTable_eq, Outcome.bind_eq_ok_iff] at loaded
  rcases loaded with ⟨bare, columnsLoaded, keysLoaded⟩
  have bare_name := name_eq_of_loadColumns columnsLoaded
  simp only [loadColumns, Outcome.bind_eq_ok_iff,
    Outcome.mapError_eq_ok_iff] at columnsLoaded
  rcases columnsLoaded with ⟨columns, columns_eq, _⟩
  rcases exists_descriptions_of_loadKeys keysLoaded with
    ⟨indexesDescribed, foreignKeysDescribed⟩
  rw [bare_name] at indexesDescribed foreignKeysDescribed
  have listed
      {Description : Type}
      {describe : Text → Except EngineError Description}
      {keys : List Text}
      (described : ∀ key ∈ keys, ∃ value, describe key = .ok value) :
      ∃ entries : List (Text × Description), entries.map Prod.fst = keys ∧
        ∀ entry ∈ entries, describe entry.1 = .ok entry.2 := by
    refine Lists.exists_map_eq ?_
    intro key member
    rcases described key member with ⟨value, described⟩
    exact ⟨(key, value), rfl, described⟩
  rcases listed indexesDescribed with ⟨indexes, indexNames, indexes_eq⟩
  rcases listed foreignKeysDescribed with
    ⟨foreignKeys, foreignKeyNames, foreignKeys_eq⟩
  let autoIncrement :=
    if engine.supportsAutoIncrement then engine.autoIncrementColumn name
    else none
  refine ⟨{ name, columns, autoIncrement, indexes, foreignKeys }, rfl, ?_⟩
  exact
    { columns := columns_eq
      autoIncrement := rfl
      indexNames := indexNames.symm
      indexes := indexes_eq
      foreignKeyNames := foreignKeyNames.symm
      foreignKeys := foreignKeys_eq }

/-- A table that was added had been reported. -/
theorem exists_report_of_addTable
    {catalog extended : Catalog}
    {name : Text}
    (added : addTable engine catalog name = .ok extended) :
    ∃ report, TableReport.name report = name ∧ engine.Describes report := by
  rcases addTable_eq_ok_iff.1 added with ⟨_, table, loaded, _⟩
  exact exists_report_of_loadTable loaded

/--
Behind a loaded catalog there are reports of all accepted tables.  They are
consistent, and the catalog mirrors them.
-/
theorem exists_reports_of_load
    {catalog : Catalog}
    (loaded : (load engine accepts).1 = .ok catalog) :
    ∃ reports, engine.Reports accepts reports ∧ Consistent reports ∧
      catalog.Mirrors reports := by
  have each :
      ∀ name ∈ engine.tableNames.filter accepts,
        ∃ report, TableReport.name report = name ∧ engine.Describes report := by
    rw [load, loadTables_eq_foldlM] at loaded
    intro name member
    rcases Outcome.exists_step_of_foldlM (fun _ => True) (by simp) trivial
      loaded name member with ⟨state, next, _, added⟩
    exact exists_report_of_addTable added
  rcases Lists.exists_map_eq each with ⟨reports, names_eq, described⟩
  have reported : engine.Reports accepts reports := ⟨names_eq.symm, described⟩
  have decided := decides_load reported
  rw [loaded] at decided
  cases decided with
  | accepted consistent mirrors =>
      exact ⟨reports, reported, consistent, mirrors⟩

/-- A loaded catalog has the accepted tables in the order of the engine. -/
theorem tableNames_of_load
    {catalog : Catalog}
    (loaded : (load engine accepts).1 = .ok catalog) :
    catalog.tableNames = engine.tableNames.filter accepts := by
  rcases exists_reports_of_load loaded with ⟨reports, reported, _, mirrors⟩
  exact mirrors.tableNames_eq.trans reported.names.symm

/-- Every table of a loaded catalog mirrors a consistent report that the
engine has given of it. -/
theorem exists_report_of_mem_load
    {catalog : Catalog}
    (loaded : (load engine accepts).1 = .ok catalog) :
    ∀ table ∈ catalog.tables,
      ∃ report, engine.Describes report ∧ report.Consistent ∧
        table.Mirrors report := by
  rcases exists_reports_of_load loaded with
    ⟨reports, reported, consistent, mirrors⟩
  intro table member
  rcases Lists.exists_mem_of_forall₂ mirrors.tables table member with
    ⟨report, reportMember, tableMirrors⟩
  exact ⟨report, reported.described report reportMember,
    consistent.each report reportMember, tableMirrors⟩

end AnnotatedSql.Schema.Catalog
