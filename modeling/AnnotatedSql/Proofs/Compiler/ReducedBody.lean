import AnnotatedSql.Proofs.Compiler.TokenIndependence

/-!
# Bodies without metadata

Arguments and variables are metadata: they say something about a statement
and leave nothing in its text.  A replacement stands for one text in the probe
query and for another in the final text.  So for each of the two passes there
is a reduced body, without the metadata and with plain text in place of the
replacements, in which the wildcards are the only elements left.

A body and its reduced body are read side by side.  Their drafts hold the same
wildcards all along, whatever else has been declared, so the wildcards get the
same numbers and the same token; and the directives of the reduced body are
those of the body with the metadata left out.  For the pass that it was
reduced for, both contribute the same text.
-/

namespace AnnotatedSql

open AnnotatedSql.Markup AnnotatedSql.Schema AnnotatedSql.Wildcard

/-- The passes over the directives of a statement.  The first makes up the
probe query, the second the final text. -/
inductive Pass where
  | query
  | text
deriving DecidableEq

namespace Pass

/-- The text that an element stands for that is a replacement. -/
def replacing (pass : Pass) (element : Element) : Text :=
  match pass with
  | .query => element.text
  | .text => (element.attribute? "with").getD []

/-- What a directive contributes to a pass. -/
def fragment
    (pass : Pass)
    (quote : Text → Text) :
    Directive → Text :=
  match pass with
  | .query => Directive.queryFragment quote
  | .text => Directive.fragment quote

end Pass

/-! ## Reducing bodies and directives -/

/-- What is left of a node for a pass. -/
def Compiler.reduced?
    (compiler : Compiler)
    (pass : Pass)
    (node : Node) :
    Option Node :=
  match compiler.kindOf node, node.element? with
  | .ok .argument, _ | .ok .binding, _ | .ok .bindings, _ => none
  | .ok .replacement, some element => some (.text (pass.replacing element))
  | _, _ => some node

/-- The body that is left of a body for a pass. -/
def Compiler.reducedBody
    (compiler : Compiler)
    (pass : Pass)
    (nodes : List Node) :
    List Node :=
  nodes.filterMap (compiler.reduced? pass)

namespace Directive

/-- What is left of a directive for a pass. -/
def reduced? (pass : Pass) : Directive → Option Directive
  | .declaration => none
  | .replacement probed final =>
      match pass with
      | .query => some (.text probed)
      | .text => some (.text final)
  | .text value => some (.text value)
  | .wildcard token expanded => some (.wildcard token expanded)

theorem flatMap_fragment_reduced
    (pass : Pass)
    (quote : Text → Text)
    (directives : List Directive) :
    (directives.filterMap (reduced? pass)).flatMap (pass.fragment quote) =
      directives.flatMap (pass.fragment quote) := by
  rw [List.filterMap_eq_flatMap_toList, List.flatMap_assoc]
  congr 1
  funext directive
  cases directive with
  | text value => exact List.flatMap_singleton ..
  | declaration => cases pass <;> rfl
  | replacement probed final =>
      cases pass <;> exact List.flatMap_singleton ..
  | wildcard token expanded => exact List.flatMap_singleton ..

@[simp]
theorem wildcards_reduced
    (pass : Pass)
    (directives : List Directive) :
    wildcards (directives.filterMap (reduced? pass)) =
      wildcards directives := by
  rw [wildcards, wildcards, List.filterMap_filterMap]
  congr 1
  funext directive
  cases directive <;> cases pass <;> rfl

end Directive

/-! ## Drafts with the same wildcards -/

namespace Draft

/-- Drafts with the same wildcards, or with none yet and the same token to be
drawn next. -/
structure SameWildcards (draft draft' : Draft) : Prop where
  resolution_eq : draft'.resolution? = draft.resolution?
  drawn :
    draft.resolution? = none → draft'.supply.draw.1 = draft.supply.draw.1

namespace SameWildcards

variable {draft draft' draft'' after : Draft}

theorem trans
    (first : draft.SameWildcards draft')
    (second : draft'.SameWildcards draft'') :
    draft.SameWildcards draft'' where
  resolution_eq := second.resolution_eq.trans first.resolution_eq
  drawn := fun absent =>
    (second.drawn (first.resolution_eq.trans absent)).trans (first.drawn absent)

/-- The wildcards are found in both drafts, or made anew with one token. -/
theorem exists_wildcardsWith
    (same : draft.SameWildcards draft')
    {resolution : Resolution}
    (made :
      draft.wildcardsWith TokenSupply.draw = (.ok resolution, after)) :
    ∃ after',
      draft'.wildcardsWith TokenSupply.draw = (.ok resolution, after') := by
  have resolution_eq :
      draft'.locals.get? .wildcards = draft.locals.get? .wildcards :=
    same.resolution_eq
  unfold Draft.wildcardsWith at made ⊢
  rw [resolution_eq]
  split at made
  · cases made
    exact ⟨draft', rfl⟩
  · next absent =>
    simp only [same.drawn absent] at made ⊢
    split at made
    · cases made
    · cases made
      exact ⟨_, rfl⟩

end SameWildcards

end Draft

/-! ## Reading side by side -/

namespace Directive

open AnnotatedSql.Draft

variable
    {catalog : Catalog}
    {element : Element}
    {draft draft' after : Draft}
    {directive : Directive}

theorem sameWildcards_of_readArgument
    (read : readArgument element draft = (.ok directive, after)) :
    directive = .declaration ∧ after.SameWildcards draft := by
  unfold readArgument at read
  simp only at read
  split at read
  · cases read
  · cases read
    exact ⟨rfl, rfl, fun _ => rfl⟩

theorem sameWildcards_of_readAssignments
    {assignments : Except DirectiveError (Dictionary Text)}
    (read : readAssignments assignments draft = (.ok directive, after)) :
    directive = .declaration ∧ after.SameWildcards draft := by
  unfold readAssignments at read
  split at read
  · cases read
  · cases read
    exact ⟨rfl, rfl, fun _ => rfl⟩

/-- A replacement has the texts of its element. -/
theorem replacement_eq_ok
    {probed final : Text}
    (accepted : element.replacement = .ok (probed, final)) :
    probed = element.text ∧ final = (element.attribute? "with").getD [] := by
  unfold Element.replacement at accepted
  split at accepted
  · cases accepted
  · next found =>
    split at accepted
    · cases accepted
      rw [found]
      exact ⟨rfl, rfl⟩
    · cases accepted

/-- A wildcard is the same behind drafts with the same wildcards. -/
theorem readWildcard_sameWildcards
    (same : draft.SameWildcards draft')
    (read : readWildcard catalog element draft = (.ok directive, after)) :
    ∃ after',
      readWildcard catalog element draft' = (.ok directive, after') ∧
        after.SameWildcards after' := by
  unfold readWildcard at read ⊢
  split at read
  · cases read
  · next table tableAlias described =>
    split at read
    · cases read
    · next resolution middle made =>
      cases read
      rcases same.exists_wildcardsWith made with ⟨middle', made'⟩
      rw [made']
      exact ⟨_, rfl, rfl, fun absent => nomatch absent⟩

end Directive

namespace Compiler

open AnnotatedSql.Draft

variable
    {compiler : Compiler}
    {draft draft' after : Draft}

/-- What is left of a node is read as what is left of its directive. -/
theorem readDirective_reduced
    {node : Node}
    {directive : Directive}
    (pass : Pass)
    (same : draft.SameWildcards draft')
    (read : compiler.readDirective node draft = (.ok directive, after)) :
    (compiler.reduced? pass node = none ∧
        directive.reduced? pass = none ∧
        after.SameWildcards draft') ∨
      ∃ node' directive' after',
        compiler.reduced? pass node = some node' ∧
          directive.reduced? pass = some directive' ∧
          compiler.readDirective node' draft' = (.ok directive', after') ∧
          after.SameWildcards after' := by
  unfold readDirective at read
  split at read
  · cases read
  · next kind kind_eq =>
    cases node with
    | text value =>
        cases kind with
        | text =>
            cases read
            exact .inr ⟨_, _, draft', rfl, rfl, rfl, same⟩
        | _ => cases read
    | element tag attributes children line =>
        simp only [reduced?, kind_eq, Node.element?]
        cases kind with
        | argument =>
            rcases Directive.sameWildcards_of_readArgument read with
              ⟨rfl, kept⟩
            exact .inl ⟨rfl, rfl, kept.trans same⟩
        | binding | bindings =>
            rcases Directive.sameWildcards_of_readAssignments read with
              ⟨rfl, kept⟩
            exact .inl ⟨rfl, rfl, kept.trans same⟩
        | replacement =>
            simp only [Directive.read, Directive.readElement] at read
            split at read
            · cases read
            · next probed final accepted =>
              cases read
              rcases Directive.replacement_eq_ok accepted with ⟨rfl, rfl⟩
              refine .inr ⟨_, _, draft', rfl, ?_, rfl, same⟩
              cases pass <;> rfl
        | wildcard =>
            rcases Directive.readWildcard_sameWildcards same read with
              ⟨after', read', same_after⟩
            rcases Directive.registers_of_readWildcard read with
              ⟨token, expanded, rfl, _⟩
            refine .inr ⟨_, _, after', rfl, rfl, ?_, same_after⟩
            rw [readDirective, kind_eq]
            exact read'
        | text => cases read

/-- The reduced body is read as what is left of the directives, behind drafts
with the same wildcards. -/
theorem readBody_reduced
    {nodes : List Node}
    {directives : List Directive}
    (pass : Pass)
    (same : draft.SameWildcards draft')
    (read : compiler.readBody draft nodes = (.ok directives, after)) :
    ∃ after',
      compiler.readBody draft' (compiler.reducedBody pass nodes) =
          (.ok (directives.filterMap (Directive.reduced? pass)), after') ∧
        after.SameWildcards after' := by
  induction nodes generalizing draft draft' directives with
  | nil =>
      cases read
      exact ⟨draft', rfl, same⟩
  | cons node nodes induction_hypothesis =>
      rcases readBody_cons_eq_ok read with
        ⟨directive, middle, others, readFirst, readOthers, rfl⟩
      rcases readDirective_reduced pass same readFirst with
        ⟨removed, removed', same⟩ |
        ⟨node', directive', middle', kept, kept', readFirst', same⟩
      · rcases induction_hypothesis same readOthers with
          ⟨after', readOthers', same_after⟩
        refine ⟨after', ?_, same_after⟩
        rw [reducedBody, List.filterMap_cons_none removed,
          List.filterMap_cons_none removed']
        exact readOthers'
      · rcases induction_hypothesis same readOthers with
          ⟨after', readOthers', same_after⟩
        refine ⟨after', ?_, same_after⟩
        rw [reducedBody] at readOthers' ⊢
        rw [List.filterMap_cons_some kept, List.filterMap_cons_some kept',
          readBody_of_ok readFirst', readOthers']
        rfl

/-! ## Compiling reduced bodies -/

variable
    {directives : List Directive}
    {supply : TokenSupply}
    {nodes : List Node}

/-- What is left of the directives leaves the same result columns. -/
theorem leftColumns_reduced
    (pass : Pass)
    (read : compiler.readBody { supply } nodes = (.ok directives, draft))
    (same : draft.SameWildcards draft')
    (columns : List ResultColumn) :
    Directive.leftColumns columns draft'.locals
        (directives.filterMap (Directive.reduced? pass)) =
      Directive.leftColumns columns draft.locals directives := by
  have wildcards_eq := Directive.wildcards_reduced pass directives
  by_cases noWildcards : Directive.wildcards directives = []
  · rw [Directive.leftColumns_of_no_wildcards noWildcards,
      Directive.leftColumns_of_no_wildcards (wildcards_eq.trans noWildcards)]
  · rcases resolution_of_readBody read noWildcards with
      ⟨resolution, found, registered⟩
    have found' : draft'.locals.get? .wildcards = some resolution :=
      same.resolution_eq.trans found
    rw [Directive.leftColumns_of_wildcards found registered.unprocessed
        noWildcards,
      Directive.leftColumns_of_wildcards found' registered.unprocessed
        (wildcards_eq ▸ noWildcards)]

@[simp]
theorem query_reduced
    (compiler : Compiler)
    (directives : List Directive) :
    compiler.query (directives.filterMap (Directive.reduced? .query)) =
      compiler.query directives :=
  congrArg Text.trim
    (Directive.flatMap_fragment_reduced .query compiler.quote directives)

theorem text_of_reducedBody
    (same : draft.SameWildcards draft')
    (read : compiler.readBody draft nodes = (.ok directives, after)) :
    ∃ directives',
      (compiler.readBody draft' (compiler.reducedBody .text nodes)).1 =
          .ok directives' ∧
        compiler.text directives =
          Text.trim
            (directives'.flatMap (Directive.fragment compiler.quote)) := by
  rcases readBody_reduced .text same read with ⟨after', read', _⟩
  refine ⟨_, congrArg Prod.fst read', congrArg Text.trim ?_⟩
  exact
    (Directive.flatMap_fragment_reduced .text compiler.quote directives).symm

/--
In every session with the same token and reply next, a statement compiles with
its metadata removed and the text inside its replacements in their place, and
has the same verb, query and result columns.  Its final text is made up of
what the directives contribute that are read with the other text in place of
the replacements.
-/
theorem compile_reducedBody
    {definition : StatementDefinition}
    {session session' : Session}
    {statement : Statement}
    (compiled : (compiler.compile definition session).1 = .ok statement)
    (token_eq : session'.supply.draw.1 = session.supply.draw.1)
    (reply_eq : session'.reply = session.reply) :
    (∃ reduced,
      (compiler.compile
          { definition with
            body := compiler.reducedBody .query definition.body }
          session').1 = .ok reduced ∧
        reduced.verb = statement.verb ∧
        reduced.query = statement.query ∧
        reduced.columns = statement.columns) ∧
    ∃ directives,
      (compiler.readBody { supply := session'.supply }
          (compiler.reducedBody .text definition.body)).1 = .ok directives ∧
        statement.text =
          Text.trim
            (directives.flatMap (Directive.fragment compiler.quote)) := by
  have initially :
      SameWildcards { supply := session.supply }
        { supply := session'.supply } :=
    ⟨rfl, fun _ => token_eq⟩
  rcases compiler.course_of_compile definition session with
    ⟨left, executed, course, _⟩
  rw [compiled] at course
  cases course with
  | unprobed read verb_eq notSelect =>
      rcases readBody_reduced .query initially read with ⟨draft', read', same⟩
      rw [← query_reduced] at verb_eq
      have reducedCourse :=
        @Course.unprobed compiler
          { definition with
            body := compiler.reducedBody .query definition.body }
          session'.supply session'.reply _ _ _ read' verb_eq notSelect
      exact ⟨⟨_, (compile_of_course reducedCourse).1, rfl,
        query_reduced compiler _, rfl⟩, text_of_reducedBody initially read⟩
  | attributed read verb_eq asked processed =>
      rcases readBody_reduced .query initially read with ⟨draft', read', same⟩
      rw [← query_reduced] at verb_eq
      have left := Directive.leftColumns_eq_ok_iff.2 ⟨_, processed⟩
      rw [← leftColumns_reduced .query read same] at left
      rcases Directive.leftColumns_eq_ok_iff.1 left with ⟨locals', processed'⟩
      have reducedCourse :=
        @Course.attributed compiler
          { definition with
            body := compiler.reducedBody .query definition.body }
          session'.supply session'.reply _ _ _ _ _ read' verb_eq
          (reply_eq.trans asked) processed'
      exact ⟨⟨_, (compile_of_course reducedCourse).1, rfl,
        query_reduced compiler _, rfl⟩, text_of_reducedBody initially read⟩

/-- A statement with an argument, variables and a replacement around the
parts of its text. -/
def filterDefinition : StatementDefinition where
  name := "userOfId"
  body :=
    [.text "\n ",
      .element "arg" [("name", "id"), ("type", "int")] [.text " \n"] 2,
      .text "SELECT ",
      .element "wildcard" [("table", "user"), ("as", "x")] [] 3,
      .element "vars" [("result", "one"), ("DELETE", "--")] [] 3,
      .text " FROM user x WHERE id = ",
      .element "replace" [("with", ":id")] [.text "1"] 4,
      .element "var" [("name", "page")] [] 5,
      .text " \n"]
  declared := some .select

/-- The final text of it. -/
def filterText : Text :=
  "SELECT `x`.`id`, `x`.`name` FROM user x WHERE id = :id"

/-- A session with a token, others behind it, and a reply to the query. -/
def filterSession (later : List Text) : Session where
  supply := ⟨"00", later⟩
  replies :=
    [.columns
      (["wc00_0_b", "id", "name", "wc00_0_e"].map
        fun name : String => ⟨name, .unknown⟩)]

theorem compile_reducedBody_filter :
    ∃ statement reduced directives,
      (selfJoinCompiler.compile filterDefinition (filterSession [])).1 =
          .ok statement ∧
        (selfJoinCompiler.compile
            { filterDefinition with
              body :=
                [.text "\n ", .text "SELECT ",
                  .element "wildcard" [("table", "user"), ("as", "x")] [] 3,
                  .text " FROM user x WHERE id = ", .text "1", .text " \n"] }
            (filterSession ["01"])).1 = .ok reduced ∧
        reduced.verb = statement.verb ∧
        reduced.query = statement.query ∧
        reduced.columns = statement.columns ∧
        (selfJoinCompiler.readBody { supply := (filterSession ["01"]).supply }
            [.text "\n ", .text "SELECT ",
              .element "wildcard" [("table", "user"), ("as", "x")] [] 3,
              .text " FROM user x WHERE id = ", .text ":id", .text " \n"]).1 =
          .ok directives ∧
        statement.text =
          Text.trim
            (directives.flatMap
              (Directive.fragment selfJoinCompiler.quote)) ∧
        statement.text = filterText := by
  have shown :
      (selfJoinCompiler.compile filterDefinition
        (filterSession [])).1.toOption.map Statement.text =
          some filterText := by
    decide +kernel
  cases compiled :
      (selfJoinCompiler.compile filterDefinition (filterSession [])).1 with
  | error error =>
      rw [compiled] at shown
      cases shown
  | ok statement =>
      rw [compiled] at shown
      rcases @compile_reducedBody selfJoinCompiler filterDefinition
          (filterSession []) (filterSession ["01"]) statement compiled rfl
          rfl with
        ⟨⟨reduced, again, verb_eq, query_eq, columns_eq⟩, directives, read,
          text_eq⟩
      exact ⟨statement, reduced, directives, rfl, again, verb_eq, query_eq,
        columns_eq, read, text_eq, Option.some.inj shown⟩

end Compiler

end AnnotatedSql
