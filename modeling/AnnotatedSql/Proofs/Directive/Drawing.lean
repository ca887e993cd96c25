import AnnotatedSql.Proofs.Directive.Registration

/-!
# Reading draws at most one token

The first wildcard of a statement draws a token from the supply, and those
that follow share it.  So reading a body either leaves the supply as it is and
has nothing to do with it, or draws one token, and then only the text of that
token has a say in what is read.
-/

namespace AnnotatedSql

open AnnotatedSql.Markup AnnotatedSql.Wildcard

namespace Draft

variable
    {Value : Type}
    {locals : StatementLocals}

/-- A read that has nothing to do with the supply. -/
def Undrawn
    (read : TokenSupply → Except Directive.ReadError Value × Draft) : Prop :=
  ∃ outcome locals, ∀ supply, read supply = (outcome, ⟨locals, supply⟩)

/-- A read that draws a token and is told by its text.  If it succeeds, the
wildcards have a token. -/
def Drawn
    (read : TokenSupply → Except Directive.ReadError Value × Draft) : Prop :=
  ∃ told : Text → Except Directive.ReadError Value × StatementLocals,
    (∀ supply,
      read supply =
        ((told supply.draw.1).1, ⟨(told supply.draw.1).2, supply.draw.2⟩)) ∧
    ∀ text value,
      (told text).1 = .ok value → (told text).2.get? .wildcards ≠ none

/-- A read behind some shared state: it draws a token at most if the wildcards
have none. -/
def DrawsOnce
    (locals : StatementLocals)
    (read : TokenSupply → Except Directive.ReadError Value × Draft) : Prop :=
  Undrawn read ∨ locals.get? .wildcards = none ∧ Drawn read

/-- A read whose outcome and shared state are those with an empty supply, and
which leaves the supply as it is. -/
theorem DrawsOnce.of_undrawn
    {read : TokenSupply → Except Directive.ReadError Value × Draft}
    (read_eq :
      ∀ supply,
        read supply = ((read ⟨[], []⟩).1, ⟨(read ⟨[], []⟩).2.locals, supply⟩)) :
    DrawsOnce locals read :=
  .inl ⟨_, _, read_eq⟩

/-- Wildcards that have a token keep it. -/
theorem Registers.get?_wildcards_eq_none
    {draft after : Draft}
    {added : List (MarkerToken × Wildcard)}
    (registers : draft.Registers after added)
    (vacant : after.locals.get? .wildcards = none) :
    draft.locals.get? .wildcards = none := by
  cases current : draft.locals.get? .wildcards with
  | none => rfl
  | some resolution =>
      rcases registers.keeps_token resolution current with
        ⟨resolution', kept, _⟩
      rw [resolution?, vacant] at kept
      cases kept

end Draft

/-! ## Reading one directive -/

namespace Directive

open AnnotatedSql.Draft

variable
    {catalog : Schema.Catalog}
    {element : Element}
    {locals : StatementLocals}

theorem drawsOnce_readArgument :
    DrawsOnce locals fun supply => readArgument element ⟨locals, supply⟩ := by
  refine .of_undrawn fun supply => ?_
  simp only [readArgument]
  split <;> rfl

theorem drawsOnce_readAssignments
    {assignments : Except DirectiveError (Dictionary Text)} :
    DrawsOnce locals fun supply =>
      readAssignments assignments ⟨locals, supply⟩ := by
  refine .of_undrawn fun supply => ?_
  cases assignments <;> rfl

/-- The first wildcard of a statement, with a token of some text. -/
def firstWildcard
    (locals : StatementLocals)
    (table : Schema.Table)
    (tableAlias text : Text) :
    Except ReadError Directive × StatementLocals :=
  match MarkerToken.ofText? text with
  | none => (.error (.invalidToken text), locals)
  | some token =>
      let registered := Resolution.register { token } table tableAlias
      (.ok (.wildcard token registered.1),
        locals.put .wildcards (some registered.2))

theorem drawsOnce_readWildcard :
    DrawsOnce locals fun supply =>
      readWildcard catalog element ⟨locals, supply⟩ := by
  cases described : element.wildcard catalog with
  | error error =>
      refine .of_undrawn fun supply => ?_
      simp only [readWildcard, described]
  | ok pair =>
      rcases pair with ⟨table, tableAlias⟩
      cases current : locals.get? .wildcards with
      | some resolution =>
          refine .of_undrawn fun supply => ?_
          simp only [readWildcard, described, wildcardsWith, current]
      | none =>
          refine .inr ⟨current, firstWildcard locals table tableAlias, ?_, ?_⟩
          · intro supply
            simp only [readWildcard, described, wildcardsWith, current,
              firstWildcard]
            cases MarkerToken.ofText? supply.draw.1 <;> rfl
          · intro text directive made
            unfold firstWildcard at made ⊢
            split at made
            · cases made
            · exact Option.some_ne_none _

theorem drawsOnce_readElement {kind : DirectiveKind} :
    DrawsOnce locals fun supply =>
      readElement catalog kind element ⟨locals, supply⟩ := by
  cases kind with
  | argument => exact drawsOnce_readArgument
  | binding => exact drawsOnce_readAssignments
  | bindings => exact drawsOnce_readAssignments
  | replacement =>
      refine .of_undrawn fun supply => ?_
      simp only [readElement]
      split <;> rfl
  | wildcard => exact drawsOnce_readWildcard
  | text => exact .of_undrawn fun _ => rfl

end Directive

namespace Compiler

open AnnotatedSql.Draft

variable {locals : StatementLocals}

theorem drawsOnce_readDirective (compiler : Compiler) (node : Node) :
    DrawsOnce locals fun supply =>
      compiler.readDirective node ⟨locals, supply⟩ := by
  simp only [readDirective]
  split
  · exact .of_undrawn fun _ => rfl
  · next kind _ =>
    cases node with
    | text value => cases kind <;> exact .of_undrawn fun _ => rfl
    | element tag attributes children line =>
        exact Directive.drawsOnce_readElement

section

variable
    {compiler : Compiler}
    {node : Node}
    {draft after : Draft}

theorem readBody_of_error
    {error : Directive.ReadError}
    (read : compiler.readDirective node draft = (.error error, after))
    (nodes : List Node) :
    compiler.readBody draft (node :: nodes) = (.error error, after) := by
  rw [readBody, read]

theorem readBody_of_ok
    {directive : Directive}
    (read : compiler.readDirective node draft = (.ok directive, after))
    (nodes : List Node) :
    compiler.readBody draft (node :: nodes) =
      ((compiler.readBody after nodes).1.map (directive :: ·),
        (compiler.readBody after nodes).2) := by
  rw [readBody, read]
  simp only
  split <;> next others => rw [others]; rfl

end

/-- What a body is read as behind a first directive that drew a token: with a
token, nothing is drawn from whatever supply. -/
def toldBehind
    (compiler : Compiler)
    (nodes : List Node) :
    Except Directive.ReadError Directive × StatementLocals →
      Except Directive.ReadError (List Directive) × StatementLocals
  | (.error error, locals) => (.error error, locals)
  | (.ok directive, locals) =>
      let others := compiler.readBody ⟨locals, ⟨[], []⟩⟩ nodes
      (others.1.map (directive :: ·), others.2.locals)

/-- Reading a body draws at most one token. -/
theorem drawsOnce_readBody (compiler : Compiler) (nodes : List Node) :
    DrawsOnce locals fun supply =>
      compiler.readBody ⟨locals, supply⟩ nodes := by
  induction nodes generalizing locals with
  | nil => exact .of_undrawn fun _ => rfl
  | cons node nodes induction_hypothesis =>
      rcases @drawsOnce_readDirective locals compiler node with
        ⟨error | directive, after, first⟩ | ⟨vacant, told, first, filled⟩
      · exact .inl
          ⟨_, after, fun supply => readBody_of_error (first supply) nodes⟩
      · rcases @induction_hypothesis after with
          ⟨outcome, last, others⟩ | ⟨vacant, told, others, filled⟩
        · refine .inl ⟨outcome.map (directive :: ·), last, fun supply => ?_⟩
          beta_reduce at others ⊢
          rw [readBody_of_ok (first supply), others]
        · have registers := (registers_of_readDirective (first ⟨[], []⟩)).1
          refine .inr ⟨registers.get?_wildcards_eq_none vacant,
            fun text => ((told text).1.map (directive :: ·), (told text).2),
            fun supply => ?_, ?_⟩
          · beta_reduce at others ⊢
            rw [readBody_of_ok (first supply), others]
          · intro text directives made
            rcases Outcome.map_eq_ok_iff.1 made with ⟨others, made, _⟩
            exact filled text others made
      · -- The token is there when the other directives are read, so they draw
        -- nothing, and any supply does to tell what they are read as.
        refine .inr ⟨vacant, fun text => compiler.toldBehind nodes (told text),
          fun supply => ?_, ?_⟩
        · have read := first supply
          beta_reduce
          rcases told_eq : told supply.draw.1 with ⟨error | directive, after⟩
          · rw [told_eq] at read
            exact readBody_of_error read nodes
          · rw [told_eq] at read
            rcases @induction_hypothesis after with
              ⟨outcome, last, others⟩ | ⟨vacant', _⟩
            · beta_reduce at others
              rw [readBody_of_ok read, others, toldBehind, others]
            · have present := filled supply.draw.1 directive (by rw [told_eq])
              rw [told_eq] at present
              exact absurd vacant' present
        · intro text directives made
          beta_reduce at made ⊢
          rcases told_eq : told text with ⟨error | directive, after⟩
          · rw [told_eq] at made
            cases made
          · rw [told_eq] at made
            have present := filled text directive (by rw [told_eq])
            rw [told_eq] at present
            rcases Outcome.map_eq_ok_iff.1 made with ⟨others, made, _⟩
            have registers := (registers_of_readBody (Prod.ext made rfl)).1
            intro vacant'
            exact present (registers.get?_wildcards_eq_none vacant')

end Compiler

end AnnotatedSql
