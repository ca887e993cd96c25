import AnnotatedSql.Compiler.Statement
import AnnotatedSql.Proofs.Outcome
import AnnotatedSql.Proofs.Wildcard.Blocks

/-!
# Wildcards are registered in document order

Reading the body of a statement makes its directives one by one and changes
the state that they share.  Here one read is described by what it adds to the
registered wildcards: the directive's own, if it is a wildcard, and nothing
otherwise.  Such descriptions compose, so that reading a whole body registers
the wildcards among its directives in order, all under one token.
-/

namespace AnnotatedSql

open AnnotatedSql.Markup AnnotatedSql.Wildcard

/-! ## Directives and drafts -/

/-- The wildcard that a directive is, with its token. -/
def Directive.wildcard? : Directive → Option (MarkerToken × Wildcard)
  | .wildcard token expanded => some (token, expanded)
  | .text _ | .declaration | .replacement _ _ => none

/-- The wildcards among directives, in order. -/
def Directive.wildcards
    (directives : List Directive) :
    List (MarkerToken × Wildcard) :=
  directives.filterMap Directive.wildcard?

namespace Draft

/-- The resolution that the wildcards of a draft share. -/
def resolution? (draft : Draft) : Option Resolution :=
  draft.locals.get? .wildcards

/-- The wildcards that a draft has registered. -/
def wildcards (draft : Draft) : List Wildcard :=
  draft.resolution?.elim [] Resolution.wildcards

/-- The wildcards of a draft were all registered one by one. -/
def Registered (draft : Draft) : Prop :=
  ∀ resolution, draft.resolution? = some resolution → resolution.Registered

/-- One draft becomes another by registering wildcards under its token. -/
structure Registers
    (draft after : Draft)
    (added : List (MarkerToken × Wildcard)) : Prop where
  registered : draft.Registered → after.Registered
  wildcards_eq : after.wildcards = draft.wildcards ++ added.map Prod.snd
  keeps_token :
    ∀ resolution, draft.resolution? = some resolution →
      ∃ resolution', after.resolution? = some resolution' ∧
        resolution'.token = resolution.token
  has_token :
    ∀ pair ∈ added,
      ∃ resolution, after.resolution? = some resolution ∧
        resolution.token = pair.1

theorem Registers.of_resolution_eq
    {draft after : Draft}
    (same : after.resolution? = draft.resolution?) :
    draft.Registers after [] where
  registered := by
    intro registered resolution found
    exact registered resolution (same ▸ found)
  wildcards_eq := by
    rw [wildcards, wildcards, same]
    simp
  keeps_token := by
    intro resolution found
    exact ⟨resolution, by rw [same]; exact found, rfl⟩
  has_token := by
    simp

theorem Registers.trans
    {first second third : Draft}
    {earlier later : List (MarkerToken × Wildcard)}
    (left : first.Registers second earlier)
    (right : second.Registers third later) :
    first.Registers third (earlier ++ later) where
  registered := fun registered => right.registered (left.registered registered)
  wildcards_eq := by
    rw [right.wildcards_eq, left.wildcards_eq, List.map_append,
      List.append_assoc]
  keeps_token := by
    intro resolution found
    rcases left.keeps_token resolution found with
      ⟨middle, middleFound, middleToken⟩
    rcases right.keeps_token middle middleFound with
      ⟨last, lastFound, lastToken⟩
    exact ⟨last, lastFound, lastToken.trans middleToken⟩
  has_token := by
    intro pair member
    rcases List.mem_append.1 member with before | behind
    · rcases left.has_token pair before with ⟨middle, middleFound, middleToken⟩
      rcases right.keeps_token middle middleFound with
        ⟨last, lastFound, lastToken⟩
      exact ⟨last, lastFound, lastToken.trans middleToken⟩
    · exact right.has_token pair behind

/-- A draft whose resolution is another one's with a wildcard added. -/
theorem Registers.of_register
    {draft after : Draft}
    {resolution : Resolution}
    (current :
      draft.resolution? = some resolution ∨
        draft.resolution? = none ∧ resolution = { token := resolution.token })
    (table : Schema.Table)
    (tableAlias : Text)
    (found :
      after.resolution? = some (resolution.register table tableAlias).2) :
    draft.Registers after
      [(resolution.token, (resolution.register table tableAlias).1)] where
  registered := by
    intro registered resolution' found'
    rw [found, Option.some.injEq] at found'
    subst found'
    rcases current with present | ⟨_, fresh⟩
    · exact .register table tableAlias (registered resolution present)
    · rw [fresh]
      exact .register table tableAlias (.fresh resolution.token)
  wildcards_eq := by
    rcases current with present | ⟨absent, fresh⟩
    · simp [wildcards, found, present, Resolution.register]
    · have noWildcards : resolution.wildcards = [] := by
        rw [fresh]
      simp [wildcards, found, absent, Resolution.register, noWildcards]
  keeps_token := by
    intro resolution' present'
    rcases current with present | ⟨absent, _⟩
    · rw [present, Option.some.injEq] at present'
      exact ⟨_, found, by rw [← present']; rfl⟩
    · rw [absent] at present'
      cases present'
  has_token := by
    intro pair member
    rw [List.mem_singleton.1 member]
    exact ⟨_, found, rfl⟩

end Draft

/-! ## Reading one directive -/

namespace Directive

variable
    {catalog : Schema.Catalog}
    {element : Element}
    {draft after : Draft}
    {directive : Directive}

theorem wildcardsWith_eq_ok
    {draw : TokenSupply → Text × TokenSupply}
    {resolution : Resolution}
    (made : draft.wildcardsWith draw = (.ok resolution, after)) :
    draft.resolution? = some resolution ∨
      draft.resolution? = none ∧
        resolution = { token := resolution.token } := by
  unfold Draft.wildcardsWith at made
  split at made
  · next present =>
    cases made
    exact .inl present
  · next absent =>
    simp only at made
    split at made
    · exact nomatch made
    · cases made
      exact .inr ⟨absent, rfl⟩

/-- A wildcard is registered with the table and the alias of its element. -/
theorem registers_of_readWildcard
    (read : readWildcard catalog element draft = (.ok directive, after)) :
    ∃ (token : MarkerToken) (expanded : Wildcard),
      directive = .wildcard token expanded ∧
        element.wildcard catalog = .ok (expanded.table, expanded.tableAlias) ∧
        draft.Registers after [(token, expanded)] := by
  unfold readWildcard at read
  split at read
  · exact nomatch read
  · next table tableAlias described =>
    split at read
    · exact nomatch read
    · next resolution middle made =>
      cases read
      exact ⟨_, _, rfl, described,
        .of_register (wildcardsWith_eq_ok made) table tableAlias rfl⟩

theorem registers_of_readArgument
    (read : readArgument element draft = (.ok directive, after)) :
    directive.wildcard? = none ∧ draft.Registers after [] := by
  unfold readArgument at read
  simp only at read
  split at read
  · exact nomatch read
  · cases read
    exact ⟨rfl, .of_resolution_eq rfl⟩

theorem registers_of_readAssignments
    {assignments : Except DirectiveError (Dictionary Text)}
    (read : readAssignments assignments draft = (.ok directive, after)) :
    directive.wildcard? = none ∧ draft.Registers after [] := by
  unfold readAssignments at read
  split at read
  · exact nomatch read
  · cases read
    exact ⟨rfl, .of_resolution_eq rfl⟩

/-- Reading an element registers the wildcard that it is, if it is one. -/
theorem registers_of_readElement
    {kind : DirectiveKind}
    (read : readElement catalog kind element draft = (.ok directive, after)) :
    draft.Registers after directive.wildcard?.toList ∧
      directive.wildcard?.toList.map
          (fun pair => Except.ok (pair.2.table, pair.2.tableAlias)) =
        if kind = .wildcard then [element.wildcard catalog] else [] := by
  cases kind with
  | argument =>
      rcases registers_of_readArgument read with ⟨none_eq, registers⟩
      rw [none_eq]
      exact ⟨registers, rfl⟩
  | binding =>
      rcases registers_of_readAssignments read with ⟨none_eq, registers⟩
      rw [none_eq]
      exact ⟨registers, rfl⟩
  | bindings =>
      rcases registers_of_readAssignments read with ⟨none_eq, registers⟩
      rw [none_eq]
      exact ⟨registers, rfl⟩
  | replacement =>
      simp only [readElement] at read
      split at read
      · exact nomatch read
      · cases read
        exact ⟨.of_resolution_eq rfl, rfl⟩
  | wildcard =>
      rcases registers_of_readWildcard read with
        ⟨token, expanded, rfl, described, registers⟩
      refine ⟨registers, ?_⟩
      rw [described]
      rfl
  | text => exact nomatch read

end Directive

/-! ## Reading a body -/

namespace Compiler

/-- The elements of a body that are wildcards, in document order. -/
def wildcardElements
    (compiler : Compiler)
    (nodes : List Node) :
    List Element :=
  nodes.filterMap fun node =>
    match compiler.kindOf node with
    | .ok .wildcard => node.element?
    | _ => none

theorem wildcardElements_cons
    (compiler : Compiler)
    (node : Node)
    (nodes : List Node) :
    compiler.wildcardElements (node :: nodes) =
      compiler.wildcardElements [node] ++ compiler.wildcardElements nodes :=
  List.filterMap_append (l := [node])

/-- The tables and aliases of wildcards, as reading their elements gives
them. -/
def expansions
    (wildcards : List (MarkerToken × Wildcard)) :
    List (Except DirectiveError (Schema.Table × Text)) :=
  wildcards.map fun pair => .ok (pair.2.table, pair.2.tableAlias)

variable
    {compiler : Compiler}
    {draft after : Draft}

theorem registers_of_readDirective
    {node : Node}
    {directive : Directive}
    (read : compiler.readDirective node draft = (.ok directive, after)) :
    draft.Registers after directive.wildcard?.toList ∧
      expansions directive.wildcard?.toList =
        (compiler.wildcardElements [node]).map
          (Element.wildcard · compiler.catalog) := by
  unfold readDirective at read
  split at read
  · exact nomatch read
  · next kind kind_eq =>
    cases node with
    | text value =>
        cases kind with
        | text =>
            cases read
            exact ⟨.of_resolution_eq rfl, rfl⟩
        | _ => exact nomatch read
    | element tag attributes children line =>
        rcases Directive.registers_of_readElement read with
          ⟨registers, described⟩
        refine ⟨registers, ?_⟩
        rw [expansions, described]
        cases kind <;> simp [wildcardElements, kind_eq, Node.element?]

/-- A body is read if its first node is and the others are behind it. -/
theorem readBody_cons_eq_ok
    {node : Node}
    {nodes : List Node}
    {directives : List Directive}
    (read : compiler.readBody draft (node :: nodes) = (.ok directives, after)) :
    ∃ directive middle others,
      compiler.readDirective node draft = (.ok directive, middle) ∧
        compiler.readBody middle nodes = (.ok others, after) ∧
        directives = directive :: others := by
  rw [readBody] at read
  split at read
  · cases read
  · next directive middle readFirst =>
    split at read
    · cases read
    · next others last readOthers =>
      cases read
      exact ⟨directive, middle, others, readFirst, readOthers, rfl⟩

/--
Reading a body registers the wildcards among its directives, which are those
that the wildcard elements of the body describe.
-/
theorem registers_of_readBody
    {nodes : List Node}
    {directives : List Directive}
    (read : compiler.readBody draft nodes = (.ok directives, after)) :
    draft.Registers after (Directive.wildcards directives) ∧
      expansions (Directive.wildcards directives) =
        (compiler.wildcardElements nodes).map
          (Element.wildcard · compiler.catalog) := by
  induction nodes generalizing draft directives with
  | nil =>
      cases read
      exact ⟨.of_resolution_eq rfl, rfl⟩
  | cons node nodes induction_hypothesis =>
      rcases readBody_cons_eq_ok read with
        ⟨directive, middle, others, readFirst, readOthers, rfl⟩
      rcases registers_of_readDirective readFirst with
        ⟨registersFirst, describedFirst⟩
      rcases induction_hypothesis readOthers with
        ⟨registersOthers, describedOthers⟩
      have wildcards_eq :
          Directive.wildcards (directive :: others) =
            directive.wildcard?.toList ++ Directive.wildcards others := by
        simp only [Directive.wildcards, List.filterMap_cons]
        cases directive.wildcard? <;> rfl
      rw [wildcards_eq]
      refine ⟨registersFirst.trans registersOthers, ?_⟩
      rw [expansions, List.map_append, wildcardElements_cons,
        List.map_append, ← describedFirst, ← describedOthers]
      rfl

end Compiler

end AnnotatedSql
