import AnnotatedSql.Proofs.Compiler.DocumentsInTurn
import AnnotatedSql.Proofs.Files.Enumeration
import AnnotatedSql.Proofs.Files.Stem
import AnnotatedSql.Proofs.Markup.Reading
import AnnotatedSql.Proofs.Text.Order

/-!
# Directories of statement files

The statement files of a directory are told by their full names, compiled in
the order of these names, and filed under the names without extension.  No
file is lost as long as no two of them have the same stem.  Two files have the
same stem only if one is named by the extension alone and the other by the
extension twice: then the second comes later, takes the place of the first,
and every other file still has its own.
-/

namespace AnnotatedSql

theorem FileTree.readText_of_get
    {files : FileTree}
    {path : Path}
    {string : String}
    (found : files.get path = .ok (.file string.toByteArray)) :
    files.readText path =
      .ok (unifyLineEndings (Text.ofString string)) := by
  have decoded : String.fromUTF8? string.toByteArray = some string := by
    rw [String.fromUTF8?, dif_pos string.isValidUTF8]
    rfl
  rw [readText, found]
  simp only [bind, Except.bind]
  rw [decoded]
  rfl

namespace Compiler

variable
    {compiler : Compiler}
    {files files' : FileTree}
    {path : Path}
    {entries entries' : List (Text × FileTree)}
    {session last : Session}
    {names : List Text}
    {name : Text}
    {statements : List (List Statement)}
    {compiled : Dictionary (List Statement)}

/-! ## The names of statement files -/

/-- Statement files are the entries whose names end with the extension. -/
theorem mem_statementFileNames :
    name ∈ statementFileNames entries ↔
      name ∈ entries.map Prod.fst ∧
        ∃ before : Text, name = before ++ (".xml" : Text) := by
  rw [statementFileNames, List.mem_mergeSort, List.mem_filter]
  refine and_congr_right' ⟨?_, ?_⟩
  · intro ends
    rcases Option.isSome_iff_exists.1 ends with ⟨rest, found⟩
    have reverse_eq := Text.append_of_after? found
    refine ⟨rest.reverse, ?_⟩
    rw [← List.reverse_reverse name, reverse_eq, List.reverse_append,
      List.reverse_reverse]
  · rintro ⟨before, rfl⟩
    rw [List.reverse_append, Text.after?_append, Option.isSome_some]

/-- Different names of statement files, in order. -/
structure InOrder (names : List Text) : Prop where
  files : ∀ name ∈ names, ∃ before : Text, name = before ++ (".xml" : Text)
  sorted :
    names.Pairwise fun first second => Text.lexLe first second = true
  distinct : names.Nodup

theorem InOrder.sublist
    (inOrder : InOrder names)
    {names' : List Text}
    (fewer : names'.Sublist names) :
    InOrder names' where
  files name member := inOrder.files name (fewer.subset member)
  sorted := inOrder.sorted.sublist fewer
  distinct := inOrder.distinct.sublist fewer

theorem inOrder_statementFileNames
    (distinct : (entries.map Prod.fst).Nodup) :
    InOrder (statementFileNames entries) where
  files _ member := (mem_statementFileNames.1 member).2
  sorted := Text.pairwise_mergeSort_lexLe _
  distinct := (List.mergeSort_perm ..).nodup_iff.2 (distinct.filter _)

/-- The order in which a directory is enumerated does not show in the names of
its statement files. -/
theorem statementFileNames_eq_of_perm
    (rearranged : (entries.map Prod.fst).Perm (entries'.map Prod.fst)) :
    statementFileNames entries = statementFileNames entries' :=
  Text.mergeSort_lexLe_eq_of_perm (rearranged.filter _)

/-! ## Two names of one stem -/

/-- Of the names of statement files, those under whose stem their own
statements are filed.  A file whose name is the extension twice is filed in
the place of one whose name is the extension. -/
def placedNames (names : List Text) : List Text :=
  if names.contains (".xml" : Text) then names.erase (".xml.xml" : Text)
  else names

theorem placedNames_eq (names : List Text) :
    placedNames names =
      if (".xml" : Text) ∈ names then names.erase (".xml.xml" : Text)
      else names := by
  simp only [placedNames, List.contains_iff_mem]

theorem stem_eq_stem_iff
    {name' : Text}
    (isFile : ∃ before : Text, name = before ++ (".xml" : Text))
    (isFile' : ∃ before : Text, name' = before ++ (".xml" : Text)) :
    Path.stem name = Path.stem name' ↔
      name = name' ∨
        name = (".xml" : Text) ∧ name' = (".xml.xml" : Text) ∨
        name' = (".xml" : Text) ∧ name = (".xml.xml" : Text) := by
  rcases isFile with ⟨before, rfl⟩
  rcases isFile' with ⟨before', rfl⟩
  have noDot : CodePoint.scalar '.' ∉ ("xml" : Text) := by decide
  have nonempty : ("xml" : Text) ≠ [] := by decide
  have bare_iff {before : Text} :
      before ++ (".xml" : Text) = (".xml" : Text) ↔ before = [] :=
    List.append_left_eq_self
  have doubled_iff {before : Text} :
      before ++ (".xml" : Text) = (".xml.xml" : Text) ↔
        before = (".xml" : Text) :=
    @List.append_left_inj CodePoint before ".xml" ".xml"
  rw [List.append_left_inj, bare_iff, bare_iff, doubled_iff, doubled_iff]
  exact Path.stem_append_eq_iff noDot nonempty

namespace InOrder

/-- Unless both names are there that have the same stem, all stems differ. -/
theorem nodup_stems
    (inOrder : InOrder names)
    (apart :
      ¬ ((".xml" : Text) ∈ names ∧ (".xml.xml" : Text) ∈ names)) :
    (names.map Path.stem).Nodup := by
  refine inOrder.distinct.map_on ?_
  intro name member name' member' same
  rcases (stem_eq_stem_iff (inOrder.files name member)
      (inOrder.files name' member')).1 same with
    name_eq | ⟨rfl, rfl⟩ | ⟨rfl, rfl⟩
  · exact name_eq
  · exact absurd ⟨member, member'⟩ apart
  · exact absurd ⟨member', member⟩ apart

theorem nodup_stems_placedNames (inOrder : InOrder names) :
    ((placedNames names).map Path.stem).Nodup := by
  rw [placedNames_eq]
  split_ifs with bare
  · refine (inOrder.sublist List.erase_sublist).nodup_stems ?_
    rintro ⟨_, doubled⟩
    exact inOrder.distinct.not_mem_erase doubled
  · exact inOrder.nodup_stems (bare ∘ And.left)

theorem notMem_before
    {before after : List Text}
    (inOrder : InOrder (before ++ name :: after)) :
    name ∉ before := fun isBefore =>
  (List.nodup_append'.1 inOrder.distinct).2.2 isBefore List.mem_cons_self

/-- The extension comes before the extension twice. -/
theorem notMem_after
    {before after : List Text}
    (inOrder : InOrder (before ++ (".xml.xml" : Text) :: after)) :
    (".xml" : Text) ∉ after := by
  intro isAfter
  have sorted := (List.pairwise_append.1 inOrder.sorted).2.1
  exact absurd ((List.pairwise_cons.1 sorted).1 _ isAfter) (by decide)

theorem mem_before
    {before after : List Text}
    (inOrder : InOrder (before ++ (".xml.xml" : Text) :: after))
    (bare : (".xml" : Text) ∈ before ++ (".xml.xml" : Text) :: after) :
    (".xml" : Text) ∈ before := by
  rcases List.mem_append.1 bare with isBefore | bare
  · exact isBefore
  rcases List.mem_cons.1 bare with same | isAfter
  · exact absurd same (by decide)
  · exact absurd isAfter inOrder.notMem_after

/-- No later file has the stem of a file, unless the file is named by the
extension alone. -/
theorem stem_notMem_after
    {before after : List Text}
    (inOrder : InOrder (before ++ name :: after))
    (stays : name = (".xml" : Text) → (".xml.xml" : Text) ∉ after) :
    Path.stem name ∉ after.map Path.stem := by
  intro again
  rcases List.mem_map.1 again with ⟨name', member', same⟩
  have member : name ∈ before ++ name :: after :=
    List.mem_append_right _ List.mem_cons_self
  rcases (stem_eq_stem_iff
      (inOrder.files name' (List.mem_append_right _
        (List.mem_cons_of_mem _ member')))
      (inOrder.files name member)).1 same with
    rfl | ⟨rfl, rfl⟩ | ⟨rfl, rfl⟩
  · have distinct := (List.nodup_append'.1 inOrder.distinct).2.1
    exact (List.nodup_cons.1 distinct).1 member'
  · exact inOrder.notMem_after member'
  · exact stays rfl member'

end InOrder

/-! ## Filing by stems -/

section

variable
    {Value : Type}
    {named : Dictionary Value}

/-- Values that belong to names, assigned to the stems of the names. -/
def byStem (named : Dictionary Value) : Dictionary Value :=
  named.map (Prod.map Path.stem id)

theorem byStem_append_cons
    (before : Dictionary Value)
    (name : Text)
    (value : Value)
    (after : Dictionary Value) :
    byStem (before ++ (name, value) :: after) =
      byStem before ++ (Path.stem name, value) :: byStem after :=
  List.map_append

theorem names_byStem (named : Dictionary Value) :
    (byStem named).names = named.names.map Path.stem := by
  rw [byStem, Dictionary.names, Dictionary.names, List.map_map, List.map_map]
  rfl

theorem putAll_byStem
    (distinct : (named.names.map Path.stem).Nodup) :
    Dictionary.putAll [] (byStem named) = byStem named :=
  Dictionary.putAll_of_nodup ((names_byStem named).symm ▸ distinct)

/-- The stems stand in the order of the names. -/
theorem InOrder.names_putAll_byStem (inOrder : InOrder named.names) :
    (Dictionary.putAll [] (byStem named)).names =
      (placedNames named.names).map Path.stem := by
  have distinct := inOrder.nodup_stems_placedNames
  rw [placedNames_eq] at distinct ⊢
  split_ifs at distinct ⊢ with bare
  · by_cases doubled : (".xml.xml" : Text) ∈ named.names
    · rcases List.mem_map.1 doubled with ⟨⟨_, value⟩, member, rfl⟩
      rcases List.append_of_mem member with ⟨before, after, rfl⟩
      rw [Dictionary.names_append, Dictionary.names_cons]
        at inOrder bare distinct ⊢
      -- The extension has the stem that is assigned again.
      have known : Path.stem ".xml.xml" ∈ (byStem before).names := by
        rw [names_byStem]
        exact List.mem_map.2 ⟨_, inOrder.mem_before bare, by decide⟩
      rw [List.erase_append_right _ inOrder.notMem_before,
        List.erase_cons_head, ← Dictionary.names_append] at distinct ⊢
      rw [byStem_append_cons, Dictionary.names_putAll_nil_append_cons known,
        byStem, byStem, ← List.map_append, ← byStem, putAll_byStem distinct,
        names_byStem]
    · rw [List.erase_of_not_mem doubled] at distinct ⊢
      rw [putAll_byStem distinct, names_byStem]
  · rw [putAll_byStem distinct, names_byStem]

/-- A name brings its value to its stem, unless it is the extension and the
extension twice is there too. -/
theorem InOrder.get?_putAll_byStem
    (inOrder : InOrder named.names)
    {value : Value}
    (member : (name, value) ∈ named)
    (stays : name = (".xml" : Text) → (".xml.xml" : Text) ∉ named.names) :
    (Dictionary.putAll [] (byStem named)).get? (Path.stem name) =
      some value := by
  rcases List.append_of_mem member with ⟨before, after, rfl⟩
  rw [Dictionary.names_append, Dictionary.names_cons] at inOrder stays
  have notLater : Path.stem name ∉ (byStem after).names := by
    rw [names_byStem]
    refine inOrder.stem_notMem_after fun bare doubled => stays bare ?_
    exact List.mem_append_right _ (List.mem_cons_of_mem _ doubled)
  rw [byStem_append_cons]
  exact Dictionary.get?_putAll_nil_append_cons (byStem before)
    (Path.stem name, value) notLater

/-- Nothing is lost unless both names are there that have the same stem. -/
theorem InOrder.putAll_byStem_eq_iff (inOrder : InOrder named.names) :
    Dictionary.putAll [] (byStem named) = byStem named ↔
      ¬ ((".xml" : Text) ∈ named.names ∧
        (".xml.xml" : Text) ∈ named.names) := by
  refine ⟨?_, fun apart => putAll_byStem (inOrder.nodup_stems apart)⟩
  rintro complete ⟨bare, doubled⟩
  have distinct := inOrder.nodup_stems_placedNames
  rw [← inOrder.names_putAll_byStem, complete, names_byStem] at distinct
  exact absurd (List.inj_on_of_nodup_map distinct bare doubled (by decide))
    (by decide)

end

/-! ## Compiling in turn -/

/-- Steps in turn all succeed if the first does, and then the others do from
the state that it leaves. -/
theorem inTurn_cons_eq_ok_iff
    {State Item Fault Value : Type}
    {step : State → Item → Except Fault Value × State}
    {state last : State}
    {item : Item}
    {items : List Item}
    {values : List Value} :
    inTurn step state (item :: items) = (values.map .ok, last) ↔
      ∃ first next others,
        step state item = (.ok first, next) ∧
          inTurn step next items = (others.map .ok, last) ∧
          values = first :: others := by
  rw [inTurn_cons, Prod.mk.injEq]
  constructor
  · rintro ⟨outcomes_eq, last_eq⟩
    cases values with
    | nil => exact absurd outcomes_eq (List.cons_ne_nil _ _)
    | cons first others =>
        rcases List.cons.inj outcomes_eq with ⟨first_eq, others_eq⟩
        exact ⟨first, (step state item).2, others, Prod.ext first_eq rfl,
          Prod.ext others_eq last_eq, rfl⟩
  · rintro ⟨first, next, others, stepped, turn, rfl⟩
    rw [stepped, turn]
    exact ⟨rfl, rfl⟩

/-- Compiles the entry of a name. -/
def compileEntry
    (compiler : Compiler)
    (files : FileTree)
    (path : Path)
    (session : Session)
    (name : Text) :
    Except FilesError (List Statement) × Session :=
  compiler.compileFile files (path.entry name) session

/-- Entries are compiled if every one compiles in its turn, and then their
statements are assigned to their stems in turn. -/
theorem compileEntries_eq_ok_iff
    {earlier : Dictionary (List Statement)} :
    compiler.compileEntries files path earlier session names =
        (.ok compiled, last) ↔
      ∃ statements : List (List Statement),
        inTurn (compiler.compileEntry files path) session names =
            (statements.map .ok, last) ∧
          compiled = earlier.putAll (byStem (names.zip statements)) := by
  induction names generalizing earlier session with
  | nil =>
      rw [compileEntries, inTurn, Prod.mk.injEq, Except.ok.injEq]
      constructor
      · rintro ⟨rfl, rfl⟩
        exact ⟨[], rfl, rfl⟩
      · rintro ⟨statements, turn, rfl⟩
        exact ⟨rfl, (Prod.mk.inj turn).2⟩
  | cons name names induction_hypothesis =>
      simp only [inTurn_cons_eq_ok_iff]
      rw [compileEntries]
      rcases stepped : compiler.compileFile files (path.entry name) session with
        ⟨error | first, next⟩
      · refine iff_of_false (by simp) ?_
        rintro ⟨_, ⟨first, next', others, stepped', _⟩, _⟩
        cases stepped.symm.trans stepped'
      · simp only
        rw [induction_hypothesis]
        constructor
        · rintro ⟨others, turn, rfl⟩
          exact ⟨first :: others, ⟨first, next, others, stepped, turn, rfl⟩,
            rfl⟩
        · rintro ⟨_, ⟨first', next', others, stepped', turn, rfl⟩, rfl⟩
          cases stepped.symm.trans stepped'
          exact ⟨others, turn, rfl⟩

/-! ## Directories -/

/-- The statements of files, filed in a dictionary under the stems of the
files. -/
structure FiledByStem
    (names : List Text)
    (statements : List (List Statement))
    (compiled : Dictionary (List Statement)) : Prop where
  order : compiled.names = (placedNames names).map Path.stem
  values :
    List.Forall₂
      (fun name statements =>
        (name = (".xml" : Text) → (".xml.xml" : Text) ∉ names) →
          compiled.get? (Path.stem name) = some statements)
      names statements
  complete_iff :
    compiled = (names.map Path.stem).zip statements ↔
      ¬ ((".xml" : Text) ∈ names ∧ (".xml.xml" : Text) ∈ names)

theorem InOrder.filedByStem
    (inOrder : InOrder names)
    (lengths : names.length = statements.length) :
    FiledByStem names statements
      (Dictionary.putAll [] (byStem (names.zip statements))) := by
  have names_eq : Dictionary.names (names.zip statements) = names :=
    List.map_fst_zip lengths.le
  have byStem_eq :
      byStem (names.zip statements) = (names.map Path.stem).zip statements :=
    (List.zip_map_left ..).symm
  rw [← names_eq] at inOrder
  refine ⟨?_, ?_, ?_⟩
  · rw [inOrder.names_putAll_byStem, names_eq]
  · refine List.forall₂_iff_zip.2 ⟨lengths, ?_⟩
    intro name statements member stays
    exact inOrder.get?_putAll_byStem member (names_eq.symm ▸ stays)
  · rw [← byStem_eq, inOrder.putAll_byStem_eq_iff, names_eq]

theorem compileEntries_eq_of_sameFiles
    (same : files.SameFiles files')
    (earlier : Dictionary (List Statement)) :
    compiler.compileEntries files' path earlier session names =
      compiler.compileEntries files path earlier session names := by
  induction names generalizing earlier session with
  | nil => rfl
  | cons name names induction_hypothesis =>
      have step :
          compiler.compileFile files' (path.entry name) session =
            compiler.compileFile files (path.entry name) session := by
        rw [compileFile, compileFile, same.readText_eq]
      rw [compileEntries, compileEntries, step]
      simp only [induction_hypothesis]

/-- A directory is compiled alike in whatever order it is enumerated. -/
theorem compileDirectory_eq_of_sameFiles
    (same : files.SameFiles files')
    (path : Path)
    (session : Session) :
    compiler.compileDirectory files' path session =
      compiler.compileDirectory files path session := by
  rw [compileDirectory, compileDirectory]
  rcases same.get_cases path with
    ⟨error, failed, failed'⟩ | ⟨found, found', got, got', standing⟩
  · rw [failed, failed']
  · rw [got, got']
    cases standing with
    | file bytes => rfl
    | directory names =>
        simp only
        rw [statementFileNames_eq_of_perm names]
        exact compileEntries_eq_of_sameFiles same []

/--
The statement files of a directory are its entries whose names end with the
extension.  If each compiles in its turn, in the order of the names, the
directory compiles, and each stem is filed once, in this order, with the
statements of its file.  All files are there unless one is named by the
extension alone and another by the extension twice; then the second is filed in
the place of the first, and nothing else is missing.  The directory compiles in
no other way, and the order in which it is enumerated does not show.
-/
theorem compileDirectory_of_statementFiles
    (compiler : Compiler)
    (directory : files.get path = .ok (.directory entries))
    (distinct : (entries.map Prod.fst).Nodup)
    (session : Session) :
    InOrder (statementFileNames entries) ∧
      (∀ name,
        name ∈ statementFileNames entries ↔
          name ∈ entries.map Prod.fst ∧
            ∃ before : Text, name = before ++ (".xml" : Text)) ∧
      (∀ (statements : List (List Statement)) (last : Session),
        inTurn (compiler.compileEntry files path) session
              (statementFileNames entries) =
            (statements.map .ok, last) →
          ∃ compiled,
            compiler.compileDirectory files path session =
                (.ok compiled, last) ∧
              FiledByStem (statementFileNames entries) statements compiled) ∧
      (∀ (compiled : Dictionary (List Statement)) (last : Session),
        compiler.compileDirectory files path session = (.ok compiled, last) →
          ∃ statements : List (List Statement),
            inTurn (compiler.compileEntry files path) session
                (statementFileNames entries) =
              (statements.map .ok, last)) ∧
      ∀ files', files.SameFiles files' →
        compiler.compileDirectory files' path session =
          compiler.compileDirectory files path session := by
  have inOrder := inOrder_statementFileNames distinct
  have compileDirectory_eq :
      compiler.compileDirectory files path session =
        compiler.compileEntries files path [] session
          (statementFileNames entries) := by
    rw [compileDirectory, directory]
  refine ⟨inOrder, fun _ => mem_statementFileNames, ?_, ?_, ?_⟩
  · intro statements last turn
    have lengths :=
      length_inTurn (compiler.compileEntry files path) session
        (statementFileNames entries)
    rw [turn, List.length_map] at lengths
    rw [compileDirectory_eq]
    exact ⟨_, compileEntries_eq_ok_iff.2 ⟨statements, turn, rfl⟩,
      inOrder.filedByStem lengths.symm⟩
  · intro compiled last succeeded
    rw [compileDirectory_eq] at succeeded
    rcases compileEntries_eq_ok_iff.1 succeeded with ⟨statements, turn, -⟩
    exact ⟨statements, turn⟩
  · intro files' same
    exact compileDirectory_eq_of_sameFiles same path session

/-! ## Known files -/

/-- A statement file. -/
def deletionFile : String := "<delete name=\"A\">DELETE</delete>"

/-- The definition in it. -/
def deletionDefinition : StatementDefinition where
  name := "A"
  body := [.text "DELETE"]
  declared := some .delete

/-- The statement that it is compiled to. -/
def deletionStatement : Statement where
  name := "A"
  verb := .delete
  text := "DELETE"
  query := "DELETE"
  columns := []
  locals := {}

/-- A compiler for statements without tables. -/
def tablelessCompiler : Compiler where
  catalog := {}
  quote := id

/-- A session in which nothing has been compiled. -/
def freshSession : Session where
  supply := ⟨"0f", []⟩

/-- A tree with one directory. -/
def folder (entries : List (Text × FileTree)) : FileTree :=
  .directory [("s", .directory entries)]

/-- The path to it. -/
def folderPath : Path where
  parts := ["s"]

theorem sameFiles_folder
    (distinct : (entries.map Prod.fst).Nodup)
    (rearranged : entries.Perm entries') :
    (folder entries).SameFiles (folder entries') := by
  refine .directory (List.nodup_singleton _) (List.Perm.refl _) ?_
  intro name tree tree' member member'
  cases List.mem_singleton.1 member
  cases List.mem_singleton.1 member'
  exact .directory_of_perm distinct rearranged

set_option maxRecDepth 2000 in
theorem parse_deletionFile (parser : Markup.Parser) :
    (parser.parse deletionFile).1 =
      .ok [.element "delete" [("name", "A")] [.text "DELETE"] 1] := by
  have read := Markup.Lexer.reads_readFor 8 ⟨deletionFile, .content, 1⟩
  have read_eq :
      Markup.Lexer.readFor 8 ⟨deletionFile, .content, 1⟩ =
        ([⟨.openTag "delete", 1⟩, ⟨.name "name", 1⟩, ⟨.equals, 1⟩,
            ⟨.string "A", 1⟩, ⟨.tagEnd, 1⟩, ⟨.text "DELETE", 1⟩,
            ⟨.closeTag "delete", 1⟩],
          ⟨[], .content, 1⟩) := by
    cbv
  rw [read_eq] at read
  exact Markup.Parser.parse_eq_ok_iff.2 ⟨_, read.tokenize_eq, rfl⟩

theorem parse_nil (parser : Markup.Parser) :
    (parser.parse []).1 = .ok [] :=
  Markup.Parser.parse_eq_ok_iff.2
    ⟨[], (Markup.Lexer.Reads.here _).tokenize_eq, rfl⟩

theorem compileFile_deletionFile
    (found : files.get path = .ok (.file deletionFile.toByteArray)) :
    ∃ next,
      tablelessCompiler.compileFile files path freshSession =
        (.ok [deletionStatement], next) := by
  have read : files.readText path = .ok deletionFile :=
    FileTree.readText_of_get found
  have defined :
      freshSession.definitions deletionFile = (.ok [deletionDefinition], _) :=
    Session.definitions_of_parse (parse_deletionFile _) (by cbv)
  have compiled_eq (parser : Markup.Parser) :
      tablelessCompiler.compileAll { freshSession with parser := parser }
          [deletionDefinition] =
        (.ok [deletionStatement],
          { freshSession with
            parser := parser
            events := [.compiledStatement "A" "DELETE"] }) := by
    cbv
  rw [compileFile, read]
  simp only
  rw [compileDocument, defined]
  simp only
  rw [compiled_eq]
  exact ⟨_, rfl⟩

theorem compileFile_empty
    (compiler : Compiler)
    (found : files.get path = .ok (.file "".toByteArray))
    (session : Session) :
    ∃ next, compiler.compileFile files path session = (.ok [], next) := by
  have read : files.readText path = .ok [] :=
    FileTree.readText_of_get found
  have defined : session.definitions [] = (.ok [], _) :=
    Session.definitions_of_parse (parse_nil session.parser) rfl
  rw [compileFile, read]
  simp only
  rw [compileDocument, defined]
  exact ⟨_, rfl⟩

theorem compileEntries_deletionFile_empty
    {first second : Text}
    (found :
      files.get (path.entry first) = .ok (.file deletionFile.toByteArray))
    (found' : files.get (path.entry second) = .ok (.file "".toByteArray)) :
    ∃ last,
      inTurn (tablelessCompiler.compileEntry files path) freshSession
          [first, second] =
        (([[deletionStatement], []] : List (List Statement)).map .ok,
          last) := by
  rcases compileFile_deletionFile found with ⟨next, compiled⟩
  rcases compileFile_empty tablelessCompiler found' next with
    ⟨last, compiled'⟩
  exact ⟨last, inTurn_cons_eq_ok_iff.2 ⟨_, next, [[]], compiled,
    inTurn_cons_eq_ok_iff.2 ⟨[], last, [], compiled', rfl, rfl⟩, rfl⟩⟩

/-- Two statement files and another one. -/
def mixedEntries : List (Text × FileTree) :=
  [("b.xml", .file "".toByteArray), ("notes", .file "".toByteArray),
    ("a.xml", .file deletionFile.toByteArray)]

theorem compileDirectory_of_statementFiles_mixed :
    (folder mixedEntries).get folderPath = .ok (.directory mixedEntries) ∧
      (mixedEntries.map Prod.fst).Nodup ∧
      ∃ last,
        tablelessCompiler.compileDirectory (folder mixedEntries) folderPath
            freshSession =
          (.ok [("a", [deletionStatement]), ("b", [])], last) ∧
        tablelessCompiler.compileDirectory (folder mixedEntries.reverse)
            folderPath freshSession =
          (.ok [("a", [deletionStatement]), ("b", [])], last) := by
  have distinct : (mixedEntries.map Prod.fst).Nodup := by decide
  refine ⟨rfl, distinct, ?_⟩
  have names_eq :
      statementFileNames mixedEntries =
        [Text.ofString "a.xml", Text.ofString "b.xml"] := by
    cbv
  rcases @compileEntries_deletionFile_empty (folder mixedEntries) folderPath
      "a.xml" "b.xml" rfl rfl with
    ⟨last, turn⟩
  rcases compileDirectory_of_statementFiles tablelessCompiler
      (rfl : (folder mixedEntries).get folderPath = .ok _) distinct
      freshSession with
    ⟨_, _, compiles, _, sameOutcome⟩
  rw [names_eq] at compiles
  rcases compiles _ last turn with ⟨compiled, succeeded, filed⟩
  have complete := filed.complete_iff.2 (by decide)
  subst complete
  refine ⟨last, succeeded, ?_⟩
  rw [sameOutcome _ (sameFiles_folder distinct mixedEntries.reverse_perm.symm)]
  exact succeeded

/-- The name that is the extension, and the name that is the extension
twice. -/
def sameStemEntries : List (Text × FileTree) :=
  [(".xml", .file deletionFile.toByteArray),
    (".xml.xml", .file "".toByteArray)]

/-- Two files that compile, and one entry: the statement of the first is
lost. -/
theorem compileDirectory_sameStem :
    statementFileNames sameStemEntries =
        [Text.ofString ".xml", Text.ofString ".xml.xml"] ∧
      ∃ last,
        inTurn
            (tablelessCompiler.compileEntry (folder sameStemEntries)
              folderPath)
            freshSession (statementFileNames sameStemEntries) =
          (([[deletionStatement], []] : List (List Statement)).map .ok,
            last) ∧
        tablelessCompiler.compileDirectory (folder sameStemEntries) folderPath
            freshSession =
          (.ok [(".xml", [])], last) := by
  have names_eq :
      statementFileNames sameStemEntries =
        [Text.ofString ".xml", Text.ofString ".xml.xml"] := by
    cbv
  rcases @compileEntries_deletionFile_empty (folder sameStemEntries) folderPath
      ".xml" ".xml.xml" rfl rfl with
    ⟨last, turn⟩
  have compileDirectory_eq :
      tablelessCompiler.compileDirectory (folder sameStemEntries) folderPath
          freshSession =
        tablelessCompiler.compileEntries (folder sameStemEntries) folderPath
          [] freshSession (statementFileNames sameStemEntries) :=
    rfl
  rw [compileDirectory_eq, names_eq]
  exact ⟨rfl, last, turn, compileEntries_eq_ok_iff.2 ⟨_, turn, rfl⟩⟩

end Compiler

end AnnotatedSql
