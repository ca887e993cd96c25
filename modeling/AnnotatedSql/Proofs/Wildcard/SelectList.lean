import AnnotatedSql.Directive.Basic
import AnnotatedSql.Proofs.Text.Cutting
import AnnotatedSql.Proofs.Wildcard.TokenText
import AnnotatedSql.Sqlite.Engine

/-!
# The select list of a wildcard

A wildcard stands in a statement as a select list: the qualified columns of
its table with commas between them, and in the probe query two labelled
constants around them.  The names come from the schema and may hold any code
point, commas, full stops and quotation marks among them.  They are delimited
by quotation marks, and a quotation mark inside is written twice.

`SelectList.Reads` says which items a text can be read as.  It knows nothing
of the names that were written: an item is any number of delimited
identifiers joined by full stops, or a constant with a label, so that a name
which looks like a further identifier or a further item could be read as one.
Still no text has two readings, and that of a wildcard has one item for each
column.
-/

namespace AnnotatedSql

/-! ## Delimited identifiers -/

namespace Sqlite

/-- The name that is read behind an opening quotation mark, up to the closing
one.  Two quotation marks in a row stand for one of the name. -/
inductive ReadsClosed : Text → Text → Prop where
  | closed : ReadsClosed ['"'] []
  | mark
      {text name : Text}
      (others : ReadsClosed text name) :
      ReadsClosed ('"' :: '"' :: text) ('"' :: name)
  | plain
      {point : CodePoint}
      {text name : Text}
      (notMark : point ≠ '"')
      (others : ReadsClosed text name) :
      ReadsClosed (point :: text) (point :: name)

/-- The name that a delimited identifier is read as. -/
inductive ReadsIdentifier : Text → Text → Prop where
  | opened
      {text name : Text}
      (others : ReadsClosed text name) :
      ReadsIdentifier ('"' :: text) name

/-- No quotation mark follows. -/
def EndsIdentifier (rest : Text) : Prop :=
  ∀ point ∈ rest.head?, point ≠ '"'

variable {text text' name name' rest rest' : Text}

/-- A written identifier is read as itself. -/
theorem readsIdentifier_quote (name : Text) :
    ReadsIdentifier (quote name) name := by
  refine .opened ?_
  induction name with
  | nil => exact .closed
  | cons point name induction_hypothesis =>
      rw [List.flatMap_cons, quotePoint]
      split
      · next isMark =>
        rw [isMark]
        exact .mark induction_hypothesis
      · next notMark => exact .plain notMark induction_hypothesis

/-- A name is closed by the first quotation mark that is not one of two. -/
theorem ReadsClosed.append_unique
    (first : ReadsClosed text name)
    (second : ReadsClosed text' name')
    (ends : EndsIdentifier rest)
    (ends' : EndsIdentifier rest')
    (same : text ++ rest = text' ++ rest') :
    name = name' ∧ rest = rest' := by
  induction first generalizing text' name' with
  | closed =>
      cases second with
      | closed => exact ⟨rfl, (List.cons.inj same).2⟩
      | mark others =>
          have rest_eq : rest = _ := (List.cons.inj same).2
          rw [rest_eq] at ends
          exact absurd rfl (ends _ rfl)
      | plain notMark others => exact absurd (List.cons.inj same).1.symm notMark
  | mark others induction_hypothesis =>
      cases second with
      | closed =>
          have rest_eq : _ = rest' := (List.cons.inj same).2
          rw [← rest_eq] at ends'
          exact absurd rfl (ends' _ rfl)
      | mark others' =>
          simp only [List.cons_append, List.cons.injEq, true_and] at same
          rcases induction_hypothesis others' same with ⟨rfl, rest_eq⟩
          exact ⟨rfl, rest_eq⟩
      | plain notMark others' =>
          exact absurd (List.cons.inj same).1.symm notMark
  | plain notMark others induction_hypothesis =>
      cases second with
      | closed => exact absurd (List.cons.inj same).1 notMark
      | mark others' => exact absurd (List.cons.inj same).1 notMark
      | plain notMark' others' =>
          simp only [List.cons_append, List.cons.injEq] at same
          rcases same with ⟨rfl, same⟩
          rcases induction_hypothesis others' same with ⟨rfl, rest_eq⟩
          exact ⟨rfl, rest_eq⟩

theorem ReadsIdentifier.append_unique
    (first : ReadsIdentifier text name)
    (second : ReadsIdentifier text' name')
    (ends : EndsIdentifier rest)
    (ends' : EndsIdentifier rest')
    (same : text ++ rest = text' ++ rest') :
    name = name' ∧ rest = rest' := by
  cases first with
  | opened inside =>
      cases second with
      | opened inside' =>
          exact inside.append_unique inside' ends ends' (List.cons.inj same).2

end Sqlite

/-! ## Select lists -/

namespace SelectList

open AnnotatedSql.Sqlite

/-- An item of a select list: identifiers joined by full stops, or a constant
with a label. -/
inductive Item where
  | path (names : List Text)
  | labelled (constant label : Text)
deriving DecidableEq

/-- The names that identifiers joined by full stops are read as. -/
inductive ReadsPath : Text → List Text → Prop where
  | last
      {text name : Text}
      (identifier : ReadsIdentifier text name) :
      ReadsPath text [name]
  | qualified
      {text name others : Text}
      {names : List Text}
      (identifier : ReadsIdentifier text name)
      (path : ReadsPath others names) :
      ReadsPath (text ++ ("." ++ others)) (name :: names)

/-- The item that a text between two commas is read as. -/
inductive ReadsItem : Text → Item → Prop where
  | path
      {text : Text}
      {names : List Text}
      (path : ReadsPath text names) :
      ReadsItem text (.path names)
  | labelled
      {constant label : Text}
      (nonempty : constant ≠ [])
      (digits : ∀ point ∈ constant, point.isAsciiDigit = true)
      (identifier : label.IsIdentifier) :
      ReadsItem (constant ++ (" AS " ++ label)) (.labelled constant label)

/-- The items that a text is read as.  The empty text has none. -/
inductive Reads : Text → List Item → Prop where
  | nothing : Reads [] []
  | last
      {text : Text}
      {item : Item}
      (reads : ReadsItem text item) :
      Reads text [item]
  | more
      {text others : Text}
      {item : Item}
      {items : List Item}
      (reads : ReadsItem text item)
      (nonempty : items ≠ [])
      (readsOthers : Reads others items) :
      Reads (text ++ (", " ++ others)) (item :: items)

/-! ## Readings are unique -/

/-- A comma follows, or nothing. -/
def EndsItem (rest : Text) : Prop :=
  ∀ point ∈ rest.head?, point = ','

theorem EndsItem.endsIdentifier
    {rest : Text}
    (ends : EndsItem rest) :
    EndsIdentifier rest := by
  intro point first
  rw [ends point first]
  decide

theorem EndsItem.nil : EndsItem [] :=
  nofun

theorem EndsItem.comma (rest : Text) : EndsItem (", " ++ rest) := by
  rintro point ⟨⟩
  rfl

section

variable
    {text text' rest rest' : Text}
    {names names' : List Text}
    {item item' : Item}
    {items items' : List Item}

/-- Identifiers reach as far as there are full stops between them. -/
theorem ReadsPath.append_unique
    (first : ReadsPath text names)
    (second : ReadsPath text' names')
    (ends : EndsItem rest)
    (ends' : EndsItem rest')
    (same : text ++ rest = text' ++ rest') :
    names = names' ∧ rest = rest' := by
  have stop (others : Text) : EndsIdentifier ("." ++ others) := by
    rintro point ⟨⟩
    decide
  induction first generalizing text' names' with
  | last identifier =>
      cases second with
      | last identifier' =>
          rcases identifier.append_unique identifier' ends.endsIdentifier
            ends'.endsIdentifier same with ⟨rfl, rest_eq⟩
          exact ⟨rfl, rest_eq⟩
      | qualified identifier' path' =>
          rw [List.append_assoc, List.append_assoc] at same
          have rest_eq := (identifier.append_unique identifier'
            ends.endsIdentifier (stop _) same).2
          rw [rest_eq] at ends
          exact absurd (ends _ rfl) (by decide)
  | qualified identifier path induction_hypothesis =>
      cases second with
      | last identifier' =>
          rw [List.append_assoc, List.append_assoc] at same
          have rest_eq := (identifier.append_unique identifier' (stop _)
            ends'.endsIdentifier same).2
          rw [← rest_eq] at ends'
          exact absurd (ends' _ rfl) (by decide)
      | qualified identifier' path' =>
          simp only [List.append_assoc] at same
          rcases identifier.append_unique identifier' (stop _) (stop _) same
            with ⟨rfl, behind⟩
          rcases induction_hypothesis path' (List.append_cancel_left behind)
            with ⟨rfl, rest_eq⟩
          exact ⟨rfl, rest_eq⟩

theorem ReadsPath.exists_mark (reads : ReadsPath text names) :
    ∃ others : Text, text = "\"" ++ others := by
  cases reads with
  | last identifier =>
      cases identifier with
      | opened inside => exact ⟨_, rfl⟩
  | qualified identifier path =>
      cases identifier with
      | opened inside => exact ⟨_, rfl⟩

/-- A constant begins with a digit, so it is no identifier. -/
theorem ReadsPath.append_ne_labelled
    {constant label : Text}
    (reads : ReadsPath text names)
    (nonempty : constant ≠ [])
    (digits : ∀ point ∈ constant, point.isAsciiDigit = true) :
    text ++ rest ≠ constant ++ (" AS " ++ label) ++ rest' := by
  intro same
  rcases reads.exists_mark with ⟨others, rfl⟩
  cases constant with
  | nil => exact nonempty rfl
  | cons digit constant =>
      have isDigit := digits digit List.mem_cons_self
      rw [← (List.cons.inj same).1] at isDigit
      cases isDigit

/-- An item reaches up to the comma behind it. -/
theorem ReadsItem.append_unique
    (first : ReadsItem text item)
    (second : ReadsItem text' item')
    (ends : EndsItem rest)
    (ends' : EndsItem rest')
    (same : text ++ rest = text' ++ rest') :
    item = item' ∧ rest = rest' := by
  cases first with
  | path path =>
      cases second with
      | path path' =>
          rcases path.append_unique path' ends ends' same with ⟨rfl, rest_eq⟩
          exact ⟨rfl, rest_eq⟩
      | labelled nonempty digits identifier =>
          exact absurd same (path.append_ne_labelled nonempty digits)
  | labelled nonempty digits identifier =>
      cases second with
      | path path =>
          exact absurd same.symm (path.append_ne_labelled nonempty digits)
      | labelled nonempty' digits' identifier' =>
          have blank (others : Text) :
              ∀ point ∈ (Text.ofString " AS " ++ others).head?,
                point.isAsciiDigit = false := by
            rintro point ⟨⟩
            rfl
          have comma {rest : Text} (ends : EndsItem rest) :
              ∀ point ∈ rest.head?, point.isIdentifierPoint = false := by
            intro point first
            rw [ends point first]
            rfl
          simp only [List.append_assoc] at same
          rcases Text.append_unique_of_run digits digits' (blank _) (blank _)
            same with ⟨rfl, behind⟩
          rcases Text.append_unique_of_run identifier.points identifier'.points
            (comma ends) (comma ends') (List.append_cancel_left behind) with
            ⟨rfl, rest_eq⟩
          exact ⟨rfl, rest_eq⟩

theorem ReadsItem.ne_nil (reads : ReadsItem text item) : text ≠ [] := by
  cases reads with
  | path path =>
      rcases path.exists_mark with ⟨others, rfl⟩
      exact List.cons_ne_nil _ _
  | labelled nonempty digits identifier =>
      exact List.append_ne_nil_of_left_ne_nil nonempty _

/-- Equal texts are read as equal lists of items.  The texts are kept apart
for the case split on the second reading. -/
theorem Reads.unique
    (first : Reads text items)
    (second : Reads text' items')
    (same : text = text') :
    items = items' := by
  induction first generalizing text' items' with
  | nothing =>
      cases second with
      | nothing => rfl
      | last reads' => exact absurd same.symm reads'.ne_nil
      | more reads' nonempty' others' =>
          exact absurd same.symm
            (List.append_ne_nil_of_left_ne_nil reads'.ne_nil _)
  | @last text item reads =>
      cases second with
      | nothing => exact absurd same reads.ne_nil
      | last reads' =>
          rw [← text.append_nil, ← text'.append_nil] at same
          rw [(reads.append_unique reads' .nil .nil same).1]
      | more reads' nonempty' others' =>
          rw [← text.append_nil] at same
          exact nomatch (reads.append_unique reads' .nil (.comma _) same).2
  | more reads nonempty others induction_hypothesis =>
      cases second with
      | nothing =>
          exact absurd same (List.append_ne_nil_of_left_ne_nil reads.ne_nil _)
      | last reads' =>
          rw [← text'.append_nil] at same
          exact nomatch (reads.append_unique reads' (.comma _) .nil same).2
      | more reads' nonempty' others' =>
          rcases reads.append_unique reads' (.comma _) (.comma _) same with
            ⟨rfl, behind⟩
          rw [induction_hypothesis others' (List.append_cancel_left behind)]

end

/-! ## Written select lists -/

/-- Items with commas between them are read as they were written. -/
theorem reads_intercalate
    {texts : List Text}
    {items : List Item}
    (each : List.Forall₂ ReadsItem texts items) :
    Reads (List.intercalate ", " texts) items := by
  induction each with
  | nil => exact .nothing
  | cons reads others induction_hypothesis =>
      cases others with
      | nil =>
          rw [List.intercalate_singleton]
          exact .last reads
      | cons next others =>
          rw [List.intercalate_cons_cons, List.append_assoc]
          exact .more reads (List.cons_ne_nil _ _) induction_hypothesis

/-- Items with commas between them have no other reading. -/
theorem reads_intercalate_iff
    {texts : List Text}
    {items items' : List Item}
    (each : List.Forall₂ ReadsItem texts items) :
    Reads (List.intercalate ", " texts) items' ↔ items' = items := by
  constructor
  · intro reads
    exact reads.unique (reads_intercalate each) rfl
  · rintro rfl
    exact reads_intercalate each

end SelectList

namespace Wildcard

open AnnotatedSql.SelectList

/-- The columns of the table in order, each behind the alias, or behind the
name of the table where there is no alias. -/
def columnItems (wildcard : Wildcard) : List Item :=
  wildcard.table.columns.map fun column =>
    .path
      [if wildcard.tableAlias = [] then wildcard.table.name
        else wildcard.tableAlias,
       column.name]

/-- A sentinel of the wildcard as an item. -/
def sentinelItem
    (token : MarkerToken)
    (wildcard : Wildcard)
    (isBegin : Bool) :
    Item :=
  .labelled "1" (token.encode ⟨wildcard.index, isBegin⟩)

theorem forall₂_items (wildcard : Wildcard) :
    List.Forall₂ ReadsItem (wildcard.items Sqlite.quote)
      wildcard.columnItems := by
  rw [items, columnItems, List.forall₂_map_left_iff,
    List.forall₂_map_right_iff, List.forall₂_same]
  intro column _
  have qualifier_eq :
      wildcard.qualifier =
        if wildcard.tableAlias = [] then wildcard.table.name
          else wildcard.tableAlias := by
    simp only [qualifier, List.isEmpty_iff]
  rw [← qualifier_eq, List.append_assoc]
  exact .path (.qualified (Sqlite.readsIdentifier_quote _)
    (.last (Sqlite.readsIdentifier_quote _)))

/-- A sentinel whose name is an identifier is read as a constant with this
label. -/
theorem readsItem_of_isIdentifier
    {token : MarkerToken}
    {marker : Marker}
    (identifier : (token.encode marker).IsIdentifier) :
    ReadsItem (sentinel token marker) (.labelled "1" (token.encode marker)) :=
  @ReadsItem.labelled "1" _ (by decide) (by decide) identifier

theorem readsItem_sentinel
    {token : MarkerToken}
    (alphanumeric :
      ∀ point ∈ token.text, (point.isAsciiLetter || point.isAsciiDigit) = true)
    (wildcard : Wildcard)
    (isBegin : Bool) :
    ReadsItem (sentinel token ⟨wildcard.index, isBegin⟩)
      (sentinelItem token wildcard isBegin) :=
  readsItem_of_isIdentifier
    (MarkerToken.isIdentifier_encode alphanumeric wildcard.index isBegin)

/-- Nothing is written for a table without columns only. -/
theorem expansion_eq_nil_iff (wildcard : Wildcard) :
    wildcard.expansion Sqlite.quote = [] ↔ wildcard.table.columns = [] := by
  constructor
  · intro nothing
    have reads : Reads (wildcard.expansion Sqlite.quote) wildcard.columnItems :=
      reads_intercalate wildcard.forall₂_items
    exact List.map_eq_nil_iff.1 (reads.unique .nothing nothing)
  · intro none
    rw [expansion, items, none]
    rfl

theorem intercalate_append_singleton
    {texts : List Text}
    (nonempty : texts ≠ [])
    (separator last : Text) :
    List.intercalate separator (texts ++ [last]) =
      List.intercalate separator [List.intercalate separator texts, last] := by
  induction texts with
  | nil => exact absurd rfl nonempty
  | cons text texts induction_hypothesis =>
      cases texts with
      | nil => rw [List.intercalate_singleton, List.singleton_append]
      | cons next texts =>
          have others := induction_hypothesis (List.cons_ne_nil next texts)
          simp only [List.cons_append, List.intercalate_cons_cons,
            List.intercalate_singleton, List.append_assoc] at others ⊢
          rw [others]

/-- The sentinels are items next to those of the columns, however many of
these there are. -/
theorem probe_eq_intercalate
    (token : MarkerToken)
    (wildcard : Wildcard) :
    wildcard.probe Sqlite.quote token =
      List.intercalate ", "
        (sentinel token ⟨wildcard.index, true⟩ ::
          (wildcard.items Sqlite.quote ++
            [sentinel token ⟨wildcard.index, false⟩])) := by
  have isEmpty_iff := wildcard.expansion_eq_nil_iff
  rw [← List.isEmpty_iff] at isEmpty_iff
  simp only [probe]
  split
  · next nothing =>
    rw [items, isEmpty_iff.1 nothing]
    rfl
  · next some =>
    have nonempty : wildcard.items Sqlite.quote ≠ [] := by
      rw [items, ne_eq, List.map_eq_nil_iff]
      exact mt isEmpty_iff.2 some
    let last := sentinel token ⟨wildcard.index, false⟩
    have nonempty' : wildcard.items Sqlite.quote ++ [last] ≠ [] :=
      List.append_ne_nil_of_left_ne_nil nonempty [last]
    rcases List.exists_cons_of_ne_nil nonempty' with ⟨second, others, items_eq⟩
    rw [items_eq, List.intercalate_cons_cons, ← items_eq,
      intercalate_append_singleton nonempty]
    exact List.intercalate_cons_cons

/--
A wildcard of SQLite stands in the final text as the columns of its table in
order, each qualified by the alias or by the name of the table, and nothing
else can be read from what it contributes, whatever the names are.  In the
probe query the same columns stand between the constants that are labelled as
the wildcard's sentinels.
-/
theorem reads_fragments
    {token : MarkerToken}
    (alphanumeric :
      ∀ point ∈ token.text, (point.isAsciiLetter || point.isAsciiDigit) = true)
    (wildcard : Wildcard) :
    (∀ items,
      Reads ((Directive.wildcard token wildcard).fragment Sqlite.quote) items ↔
        items = wildcard.columnItems) ∧
    ((Directive.wildcard token wildcard).fragment Sqlite.quote = [] ↔
      wildcard.table.columns = []) ∧
    (∀ items,
      Reads ((Directive.wildcard token wildcard).queryFragment Sqlite.quote)
          items ↔
        items =
          sentinelItem token wildcard true ::
            (wildcard.columnItems ++ [sentinelItem token wildcard false])) := by
  refine ⟨fun items => reads_intercalate_iff wildcard.forall₂_items,
    wildcard.expansion_eq_nil_iff, fun items => ?_⟩
  rw [Directive.queryFragment, probe_eq_intercalate]
  exact reads_intercalate_iff
    (.cons (readsItem_sentinel alphanumeric wildcard true)
      (List.rel_append wildcard.forall₂_items
        (.cons (readsItem_sentinel alphanumeric wildcard false) .nil)))

/-- A wildcard whose alias and columns look like other parts of a statement. -/
def misleadingNames : Wildcard where
  index := 1
  table :=
    { name := "order lines"
      columns :=
        [⟨"a\", \"t\".\"b", 0, .unknown⟩, ⟨"1 AS wc0f_1_e", 1, .unknown⟩]
      columnPlaces := [("a\", \"t\".\"b", 0), ("1 AS wc0f_1_e", 1)] }
  tableAlias := "t\".u"

theorem reads_fragments_misleadingNames :
    (∀ point ∈ Text.ofString "wc0f",
      (point.isAsciiLetter || point.isAsciiDigit) = true) ∧
    ∀ items,
      Reads
          ("1 AS wc0f_1_b, \"t\"\".u\".\"a\"\", \"\"t\"\".\"\"b\", " ++
            ("\"t\"\".u\".\"1 AS wc0f_1_e\", 1 AS wc0f_1_e" : Text)) items ↔
        items =
          [.labelled "1" "wc0f_1_b", .path ["t\".u", "a\", \"t\".\"b"],
            .path ["t\".u", "1 AS wc0f_1_e"], .labelled "1" "wc0f_1_e"] := by
  have alphanumeric :
      ∀ point ∈ Text.ofString "wc0f",
        (point.isAsciiLetter || point.isAsciiDigit) = true := by
    decide
  refine ⟨alphanumeric, ?_⟩
  let token : MarkerToken := ⟨"wc0f", by decide⟩
  have text_eq :
      (Directive.wildcard token misleadingNames).queryFragment Sqlite.quote =
        "1 AS wc0f_1_b, \"t\"\".u\".\"a\"\", \"\"t\"\".\"\"b\", " ++
          ("\"t\"\".u\".\"1 AS wc0f_1_e\", 1 AS wc0f_1_e" : Text) := by
    decide +kernel
  have items_eq :
      sentinelItem token misleadingNames true ::
          (misleadingNames.columnItems ++
            [sentinelItem token misleadingNames false]) =
        [.labelled "1" "wc0f_1_b", .path ["t\".u", "a\", \"t\".\"b"],
          .path ["t\".u", "1 AS wc0f_1_e"], .labelled "1" "wc0f_1_e"] := by
    decide +kernel
  have written := (@reads_fragments token alphanumeric misleadingNames).2.2
  rw [text_eq, items_eq] at written
  exact written

end Wildcard

end AnnotatedSql
