import AnnotatedSql.Proofs.Dictionary
import AnnotatedSql.Proofs.Directive.Registration

/-!
# What directives leave in the state they share

Directives are made of nodes in turn, of which some are refused.  A refused
one leaves the shared state as it was.  What the others declare is collected
there: the arguments in order, the values assigned to names, and the wildcards
numbered from zero.  The state of a kind is there as soon as a directive has
declared something of that kind, and not before.

What one directive does is told by `Directive.Declares`, with one rule for
each kind of state; what a sequence of them does follows by induction.
-/

namespace AnnotatedSql

open AnnotatedSql.Markup AnnotatedSql.Schema AnnotatedSql.Wildcard

/-! ## What one directive declares -/

/-- The kind of state that directives of a kind declare something in. -/
def DirectiveKind.state? : DirectiveKind → Option StateKind
  | .argument => some .arguments
  | .binding | .bindings => some .bindings
  | .wildcard => some .wildcards
  | .replacement | .text => none

namespace Directive

/-- A node that a directive of a kind is to be made of. -/
structure Request where
  kind : DirectiveKind
  node : Node

namespace Request

/-- Makes the directive. -/
def read
    (request : Request)
    (catalog : Catalog)
    (draft : Draft) :
    Except ReadError Directive × Draft :=
  Directive.read catalog request.kind request.node draft

/-- The argument that an argument directive declares by its attributes. -/
def arguments (request : Request) : List Argument :=
  match request.kind, request.node.element? with
  | .argument, some element =>
      [⟨(element.attribute? "name").getD [],
        (element.attribute? "type").getD []⟩]
  | _, _ => []

/-- What a directive assigns to names: a value that may be left out to one
name, or the values of all its attributes. -/
def assignments (request : Request) : Dictionary Text :=
  match request.kind, request.node.element? with
  | .binding, some element =>
      [((element.attribute? "name").getD [],
        (element.attribute? "value").getD [])]
  | .bindings, some element => element.attributes
  | _, _ => []

/-- The table and the alias of a wildcard directive. -/
def expansions
    (request : Request)
    (catalog : Catalog) :
    List (Except DirectiveError (Table × Text)) :=
  match request.kind, request.node.element? with
  | .wildcard, some element => [element.wildcard catalog]
  | _, _ => []

theorem arguments_of_state?
    {request : Request}
    (other : request.kind.state? ≠ some .arguments) :
    request.arguments = [] := by
  rcases request with ⟨_ | _, node⟩
  · exact absurd rfl other
  all_goals rfl

theorem assignments_of_state?
    {request : Request}
    (other : request.kind.state? ≠ some .bindings) :
    request.assignments = [] := by
  rcases request with ⟨_ | _, node⟩
  · rfl
  · exact absurd rfl other
  · exact absurd rfl other
  all_goals rfl

theorem expansions_of_state?
    {request : Request}
    {catalog : Catalog}
    (other : request.kind.state? ≠ some .wildcards) :
    request.expansions catalog = [] := by
  rcases request with ⟨_ | _, node⟩
  case wildcard => exact absurd rfl other
  all_goals rfl

end Request

/-- The shared state before and behind a directive that is made. -/
inductive Declares (catalog : Catalog) :
    StatementLocals → Request → Directive → StatementLocals → Prop where
  | nothing
      (locals : StatementLocals)
      {request : Request}
      {directive : Directive}
      (kind : request.kind.state? = none)
      (noWildcard : directive.wildcard? = none) :
      Declares catalog locals request directive locals
  | argument
      (locals : StatementLocals)
      {request : Request}
      {argument : Argument}
      (kind : request.kind.state? = some .arguments)
      (declared : request.arguments = [argument])
      (fresh :
        argument.name ∉
          ((locals.get? .arguments).getD []).map Argument.name) :
      Declares catalog locals request .declaration
        (locals.put .arguments
          (some ((locals.get? .arguments).getD [] ++ [argument])))
  | assignments
      (locals : StatementLocals)
      {request : Request}
      (kind : request.kind.state? = some .bindings) :
      Declares catalog locals request .declaration
        (locals.put .bindings
          (some (Dictionary.putAll ((locals.get? .bindings).getD [])
            request.assignments)))
  | wildcard
      (locals : StatementLocals)
      {request : Request}
      {resolution : Resolution}
      {table : Table}
      {tableAlias : Text}
      (kind : request.kind.state? = some .wildcards)
      (described : request.expansions catalog = [.ok (table, tableAlias)])
      (current :
        locals.get? .wildcards = some resolution ∨
          locals.get? .wildcards = none ∧
            resolution = { token := resolution.token }) :
      Declares catalog locals request
        (.wildcard resolution.token (resolution.register table tableAlias).1)
        (locals.put .wildcards
          (some (resolution.register table tableAlias).2))

section

variable
    {catalog : Catalog}
    {element : Element}
    {draft after : Draft}
    {directive : Directive}

theorem required_eq_ok
    {name value : Text}
    (given : element.required name = .ok value) :
    element.attribute? name = some value := by
  unfold Element.required at given
  split at given
  · cases given
  · cases given
  · next found =>
    cases given
    exact found

theorem argument_eq_ok
    {declared : List Argument}
    {argument : Argument}
    (accepted : element.argument declared = .ok argument) :
    argument =
        ⟨(element.attribute? "name").getD [],
          (element.attribute? "type").getD []⟩ ∧
      argument.name ∉ declared.map Argument.name := by
  simp only [Element.argument, Outcome.bind_eq_ok_iff] at accepted
  rcases accepted with ⟨_, _, name, named, type, typed, accepted⟩
  split at accepted
  · cases accepted
  · next fresh =>
    cases accepted
    rw [required_eq_ok named, required_eq_ok typed]
    refine ⟨rfl, ?_⟩
    simpa using fresh

theorem assignment_eq_ok
    {pair : Text × Text}
    (accepted : element.assignment = .ok pair) :
    pair =
      ((element.attribute? "name").getD [],
        (element.attribute? "value").getD []) := by
  simp only [Element.assignment, Outcome.bind_eq_ok_iff] at accepted
  rcases accepted with ⟨_, _, name, named, accepted⟩
  cases accepted
  rw [required_eq_ok named]
  rfl

theorem declares_of_readAssignments
    {request : Request}
    {assignments : Except DirectiveError (Dictionary Text)}
    (kind : request.kind.state? = some .bindings)
    (given :
      ∀ accepted, assignments = .ok accepted → accepted = request.assignments)
    (read : readAssignments assignments draft = (.ok directive, after)) :
    Declares catalog draft.locals request directive after.locals := by
  unfold readAssignments at read
  split at read
  · cases read
  · cases read
    rw [given _ rfl]
    exact .assignments draft.locals kind

/-- Wildcards that are made anew are replaced by those put next. -/
theorem put_of_wildcardsWith
    {draw : TokenSupply → Text × TokenSupply}
    {resolution : Resolution}
    (made : draft.wildcardsWith draw = (.ok resolution, after))
    (next : Option Resolution) :
    after.locals.put .wildcards next = draft.locals.put .wildcards next := by
  unfold Draft.wildcardsWith at made
  split at made
  · cases made
    rfl
  · simp only at made
    split at made
    · cases made
    · cases made
      rfl

theorem locals_of_wildcardsWith_error
    {draw : TokenSupply → Text × TokenSupply}
    {error : ReadError}
    (refused : draft.wildcardsWith draw = (.error error, after)) :
    after.locals = draft.locals := by
  unfold Draft.wildcardsWith at refused
  split at refused
  · cases refused
  · simp only at refused
    split at refused
    · cases refused
      rfl
    · cases refused

/-- What is declared by a directive that is made of an element. -/
theorem declares_of_readElement
    {kind : DirectiveKind}
    {node : Node}
    (found : node.element? = some element)
    (read : readElement catalog kind element draft = (.ok directive, after)) :
    Declares catalog draft.locals ⟨kind, node⟩ directive after.locals := by
  cases kind with
  | argument =>
      simp only [readElement, readArgument] at read
      split at read
      · cases read
      · next argument accepted =>
        cases read
        rcases argument_eq_ok accepted with ⟨argument_eq, fresh⟩
        refine .argument draft.locals rfl ?_ fresh
        simp only [Request.arguments, found, argument_eq]
  | binding =>
      refine declares_of_readAssignments rfl ?_ read
      intro accepted given
      rcases Outcome.map_eq_ok_iff.1 given with ⟨pair, assigned, rfl⟩
      simp only [Request.assignments, found, assignment_eq_ok assigned]
  | bindings =>
      refine declares_of_readAssignments rfl ?_ read
      intro accepted given
      simp only [Element.assignments, Outcome.bind_eq_ok_iff] at given
      rcases given with ⟨_, _, given⟩
      cases given
      simp only [Request.assignments, found]
  | replacement =>
      simp only [readElement] at read
      split at read
      · cases read
      · cases read
        exact .nothing draft.locals rfl rfl
  | wildcard =>
      simp only [readElement, readWildcard] at read
      split at read
      · cases read
      · next table tableAlias described =>
        split at read
        · cases read
        · next resolution middle made =>
          cases read
          simp only [put_of_wildcardsWith made]
          refine .wildcard draft.locals rfl ?_ (wildcardsWith_eq_ok made)
          simp only [Request.expansions, found, described]
  | text => cases read

theorem declares_of_read
    {request : Request}
    (read : request.read catalog draft = (.ok directive, after)) :
    Declares catalog draft.locals request directive after.locals := by
  rcases request with ⟨kind, value | ⟨tag, attributes, children, line⟩⟩
  · cases kind <;> cases read
    exact .nothing draft.locals rfl rfl
  · exact declares_of_readElement rfl read

/-- A directive that is refused declares nothing. -/
theorem locals_of_read_error
    {request : Request}
    {error : ReadError}
    (read : request.read catalog draft = (.error error, after)) :
    after.locals = draft.locals := by
  rcases request with ⟨kind, value | ⟨tag, attributes, children, line⟩⟩
  · cases kind <;> cases read <;> rfl
  · simp only [Request.read, Directive.read] at read
    cases kind with
    | argument =>
        simp only [readElement, readArgument] at read
        split at read <;> cases read
        rfl
    | binding | bindings =>
        simp only [readElement, readAssignments] at read
        split at read <;> cases read
        rfl
    | replacement =>
        simp only [readElement] at read
        split at read <;> cases read
        rfl
    | wildcard =>
        simp only [readElement, readWildcard] at read
        split at read
        · cases read
          rfl
        · split at read
          · next refused =>
            cases read
            exact locals_of_wildcardsWith_error refused
          · cases read
    | text =>
        cases read
        rfl

end

/-! ## What granted directives have declared -/

/-- Requests that were granted, each with the directive that was made. -/
abbrev Granted := List (Request × Directive)

namespace Granted

/-- A directive was made that declares something in a kind of state. -/
def touched (granted : Granted) (kind : StateKind) : Bool :=
  granted.any fun pair => pair.1.kind.state? = some kind

/-- The declared arguments, in order. -/
def arguments (granted : Granted) : List Argument :=
  granted.flatMap fun pair => pair.1.arguments

/-- The assignments of values to names, in order. -/
def assignments (granted : Granted) : Dictionary Text :=
  granted.flatMap fun pair => pair.1.assignments

/-- The tables and aliases of wildcards, in order. -/
def expansions
    (granted : Granted)
    (catalog : Catalog) :
    List (Except DirectiveError (Table × Text)) :=
  granted.flatMap fun pair => pair.1.expansions catalog

/-- The directives that were made, in order. -/
def directives (granted : Granted) : List Directive :=
  granted.map Prod.snd

/-- The wildcards among the directives, in order. -/
def wildcards (granted : Granted) : List (MarkerToken × Wildcard) :=
  Directive.wildcards granted.directives

variable {granted : Granted}

/-- What only requests of a touched kind give is nothing if none was granted. -/
theorem flatMap_eq_nil
    {Item : Type}
    {items : Request → List Item}
    {kind : StateKind}
    (others : ∀ {request}, request.kind.state? ≠ some kind → items request = [])
    (untouched : granted.touched kind = false) :
    granted.flatMap (fun pair => items pair.1) = [] := by
  rw [List.flatMap_eq_nil_iff]
  intro pair member
  apply others
  rw [touched, List.any_eq_false] at untouched
  simpa using untouched pair member

variable
    (granted : Granted)
    (request : Request)
    (directive : Directive)

theorem touched_append (kind : StateKind) :
    touched (granted ++ [(request, directive)]) kind =
      (granted.touched kind || decide (request.kind.state? = some kind)) := by
  simp [touched]

@[simp]
theorem arguments_append :
    arguments (granted ++ [(request, directive)]) =
      granted.arguments ++ request.arguments := by
  simp [arguments]

@[simp]
theorem assignments_append :
    assignments (granted ++ [(request, directive)]) =
      granted.assignments ++ request.assignments := by
  simp [assignments]

theorem expansions_append (catalog : Catalog) :
    expansions (granted ++ [(request, directive)]) catalog =
      granted.expansions catalog ++ request.expansions catalog := by
  simp [expansions]

@[simp]
theorem wildcards_append :
    wildcards (granted ++ [(request, directive)]) =
      granted.wildcards ++ directive.wildcard?.toList := by
  simp only [wildcards, directives, Directive.wildcards, List.map_append,
    List.filterMap_append, List.map_singleton, List.filterMap_cons,
    List.filterMap_nil]
  cases directive.wildcard? <;> rfl

end Granted

end Directive

/-- A place that holds a state if there is something to be held. -/
def Slot.heldIf {State : Type} (touched : Bool) (state : State) : Slot State :=
  if touched then .held state else .unset

@[simp]
theorem Slot.get?_heldIf
    {State : Type}
    (touched : Bool)
    (state : State) :
    (Slot.heldIf touched state).get? =
      if touched then some state else none := by
  cases touched <;> rfl

namespace Directive

/-- The state that has been declared by granted directives. -/
structure SharedBy
    (catalog : Catalog)
    (granted : Granted)
    (locals : StatementLocals) : Prop where
  arguments :
    locals.arguments = .heldIf (granted.touched .arguments) granted.arguments
  distinctArguments : (granted.arguments.map Argument.name).Nodup
  bindings :
    locals.bindings =
      .heldIf (granted.touched .bindings)
        (Dictionary.putAll [] granted.assignments)
  wildcards :
    ∃ resolution : Resolution,
      resolution.Registered ∧
      resolution.wildcards = granted.wildcards.map Prod.snd ∧
      locals.wildcards = .heldIf (granted.touched .wildcards) resolution
  expansions :
    Compiler.expansions granted.wildcards = granted.expansions catalog

namespace SharedBy

variable
    {catalog : Catalog}
    {granted : Granted}
    {locals after : StatementLocals}
    {request : Request}
    {directive : Directive}

theorem getD_arguments
    (shared : SharedBy catalog granted locals) :
    (locals.get? .arguments).getD [] = granted.arguments := by
  have slot_eq : locals.get? .arguments = locals.arguments.get? := rfl
  rw [slot_eq, shared.arguments, Slot.get?_heldIf]
  split_ifs with touched
  · rfl
  · exact (Granted.flatMap_eq_nil Request.arguments_of_state?
      (Bool.eq_false_iff.2 touched)).symm

theorem getD_bindings
    (shared : SharedBy catalog granted locals) :
    (locals.get? .bindings).getD [] =
      Dictionary.putAll [] granted.assignments := by
  have slot_eq : locals.get? .bindings = locals.bindings.get? := rfl
  rw [slot_eq, shared.bindings, Slot.get?_heldIf]
  split_ifs with touched
  · rfl
  · have nothing : granted.assignments = [] :=
      Granted.flatMap_eq_nil Request.assignments_of_state?
        (Bool.eq_false_iff.2 touched)
    rw [nothing]
    rfl

theorem wildcards_of_untouched
    (shared : SharedBy catalog granted locals)
    (untouched : granted.touched .wildcards = false) :
    granted.wildcards = [] := by
  have nothing : granted.expansions catalog = [] :=
    Granted.flatMap_eq_nil Request.expansions_of_state? untouched
  rw [← shared.expansions, Compiler.expansions, List.map_eq_nil_iff] at nothing
  exact nothing

/-- The first wildcard finds no others, and those that follow find the ones
that were made before. -/
theorem wildcards_of_current
    (shared : SharedBy catalog granted locals)
    {resolution : Resolution}
    (current :
      locals.get? .wildcards = some resolution ∨
        locals.get? .wildcards = none ∧
          resolution = { token := resolution.token }) :
    resolution.Registered ∧
      resolution.wildcards = granted.wildcards.map Prod.snd := by
  rcases shared.wildcards with
    ⟨shared_resolution, registered, wildcards_eq, slot⟩
  have slot_eq : locals.get? .wildcards = locals.wildcards.get? := rfl
  rw [slot_eq, slot, Slot.get?_heldIf] at current
  cases touched : granted.touched .wildcards with
  | true =>
      simp only [touched, if_true, Option.some.injEq, reduceCtorEq, false_and,
        or_false] at current
      rw [← current]
      exact ⟨registered, wildcards_eq⟩
  | false =>
      simp only [touched, Bool.false_eq_true, if_false, reduceCtorEq, true_and,
        false_or] at current
      rw [shared.wildcards_of_untouched touched, current]
      exact ⟨.fresh resolution.token, rfl⟩

theorem declare_arguments
    (shared : SharedBy catalog granted locals)
    (declares : Declares catalog locals request directive after) :
    after.arguments =
        .heldIf (Granted.touched (granted ++ [(request, directive)]) .arguments)
          (Granted.arguments (granted ++ [(request, directive)])) ∧
      ((Granted.arguments (granted ++ [(request, directive)])).map
        Argument.name).Nodup := by
  rw [Granted.touched_append, Granted.arguments_append]
  have kept
      (other : request.kind.state? ≠ some .arguments)
      (same : after.arguments = locals.arguments) :
      after.arguments =
          .heldIf (granted.touched .arguments ||
            decide (request.kind.state? = some .arguments))
            (granted.arguments ++ request.arguments) ∧
        ((granted.arguments ++ request.arguments).map Argument.name).Nodup := by
    rw [Request.arguments_of_state? other, List.append_nil,
      decide_eq_false other, Bool.or_false, same]
    exact ⟨shared.arguments, shared.distinctArguments⟩
  cases declares with
  | nothing kind noWildcard => exact kept (by simp [kind]) rfl
  | assignments kind => exact kept (by simp [kind]) rfl
  | wildcard kind described current => exact kept (by simp [kind]) rfl
  | @argument argument kind declared fresh =>
      rw [shared.getD_arguments] at fresh ⊢
      rw [declared, kind, decide_eq_true rfl, Bool.or_true]
      refine ⟨rfl, ?_⟩
      rw [List.map_append, List.map_singleton, ← List.concat_eq_append]
      exact .concat fresh shared.distinctArguments

theorem declare_bindings
    (shared : SharedBy catalog granted locals)
    (declares : Declares catalog locals request directive after) :
    after.bindings =
      .heldIf (Granted.touched (granted ++ [(request, directive)]) .bindings)
        (Dictionary.putAll []
          (Granted.assignments (granted ++ [(request, directive)]))) := by
  rw [Granted.touched_append, Granted.assignments_append]
  have kept
      (other : request.kind.state? ≠ some .bindings)
      (same : after.bindings = locals.bindings) :
      after.bindings =
        .heldIf (granted.touched .bindings ||
          decide (request.kind.state? = some .bindings))
          (Dictionary.putAll []
            (granted.assignments ++ request.assignments)) := by
    rw [Request.assignments_of_state? other, List.append_nil,
      decide_eq_false other, Bool.or_false, same]
    exact shared.bindings
  cases declares with
  | nothing kind noWildcard => exact kept (by simp [kind]) rfl
  | argument kind declared fresh => exact kept (by simp [kind]) rfl
  | wildcard kind described current => exact kept (by simp [kind]) rfl
  | assignments kind =>
      rw [shared.getD_bindings, kind, decide_eq_true rfl, Bool.or_true,
        Dictionary.putAll_append]
      rfl

theorem declare_wildcards
    (shared : SharedBy catalog granted locals)
    (declares : Declares catalog locals request directive after) :
    ∃ resolution : Resolution,
      resolution.Registered ∧
      resolution.wildcards =
        (Granted.wildcards (granted ++ [(request, directive)])).map Prod.snd ∧
      after.wildcards =
        .heldIf (Granted.touched (granted ++ [(request, directive)]) .wildcards)
          resolution := by
  rw [Granted.touched_append, Granted.wildcards_append, List.map_append]
  have kept
      (other : request.kind.state? ≠ some .wildcards)
      (noWildcard : directive.wildcard? = none)
      (same : after.wildcards = locals.wildcards) :
      ∃ resolution : Resolution,
        resolution.Registered ∧
        resolution.wildcards =
          granted.wildcards.map Prod.snd ++
            directive.wildcard?.toList.map Prod.snd ∧
        after.wildcards =
          .heldIf (granted.touched .wildcards ||
            decide (request.kind.state? = some .wildcards)) resolution := by
    rw [noWildcard, decide_eq_false other, Bool.or_false, same]
    simpa using shared.wildcards
  cases declares with
  | nothing kind noWildcard => exact kept (by simp [kind]) noWildcard rfl
  | argument kind declared fresh => exact kept (by simp [kind]) rfl rfl
  | assignments kind => exact kept (by simp [kind]) rfl rfl
  | @wildcard resolution table tableAlias kind described current =>
      rcases shared.wildcards_of_current current with ⟨registered, wildcards_eq⟩
      refine ⟨_, .register table tableAlias registered, ?_, ?_⟩
      · rw [← wildcards_eq]
        rfl
      · rw [kind, decide_eq_true rfl, Bool.or_true]
        rfl

/-- One more directive declares its own, next to what has been declared. -/
theorem declare
    (shared : SharedBy catalog granted locals)
    (declares : Declares catalog locals request directive after) :
    SharedBy catalog (granted ++ [(request, directive)]) after where
  arguments := (shared.declare_arguments declares).1
  distinctArguments := (shared.declare_arguments declares).2
  bindings := shared.declare_bindings declares
  wildcards := shared.declare_wildcards declares
  expansions := by
    rw [Granted.wildcards_append, Granted.expansions_append,
      ← shared.expansions, Compiler.expansions, List.map_append]
    congr 1
    cases declares with
    | nothing kind noWildcard =>
        rw [noWildcard, Request.expansions_of_state? (by simp [kind])]
        rfl
    | argument kind declared fresh =>
        rw [Request.expansions_of_state? (by simp [kind])]
        rfl
    | assignments kind =>
        rw [Request.expansions_of_state? (by simp [kind])]
        rfl
    | wildcard kind described current =>
        rw [described]
        rfl

/-- A statement without directives has no shared state. -/
theorem nothing (catalog : Catalog) : SharedBy catalog [] {} where
  arguments := rfl
  distinctArguments := List.nodup_nil
  bindings := rfl
  wildcards := ⟨_, .fresh ⟨"wc", by decide⟩, rfl, rfl⟩
  expansions := rfl

end SharedBy

/-! ## A sequence of directives -/

/-- Requests with what became of them. -/
abbrev Outcomes := List (Request × Except ReadError Directive)

/-- Makes directives in turn, and goes on behind those that are refused. -/
def readEach
    (catalog : Catalog)
    (draft : Draft) :
    List Request → Outcomes × Draft
  | [] => ([], draft)
  | request :: requests =>
      let (outcome, after) := request.read catalog draft
      let (outcomes, last) := readEach catalog after requests
      ((request, outcome) :: outcomes, last)

/-- The requests that were granted. -/
def Outcomes.granted (outcomes : Outcomes) : Granted :=
  outcomes.filterMap fun pair =>
    match pair.2 with
    | .ok directive => some (pair.1, directive)
    | .error _ => none

/-- Directives made in turn add what they declare, and refused ones nothing. -/
theorem SharedBy.readEach
    {catalog : Catalog}
    {granted : Granted}
    {draft : Draft}
    (shared : SharedBy catalog granted draft.locals)
    (requests : List Request) :
    SharedBy catalog
      (granted ++ (readEach catalog draft requests).1.granted)
      (readEach catalog draft requests).2.locals := by
  induction requests generalizing granted draft with
  | nil =>
      rw [Directive.readEach, Outcomes.granted, List.filterMap_nil,
        List.append_nil]
      exact shared
  | cons request requests induction_hypothesis =>
      rcases read : request.read catalog draft with
        ⟨error | directive, after⟩
      · have refused : SharedBy catalog granted after.locals := by
          rw [locals_of_read_error read]
          exact shared
        simp only [Directive.readEach, read, Outcomes.granted,
          List.filterMap_cons]
        exact induction_hypothesis refused
      · have accepted := shared.declare (declares_of_read read)
        simp only [Directive.readEach, read, Outcomes.granted,
          List.filterMap_cons]
        rw [List.append_cons]
        exact induction_hypothesis accepted

/-- What a statement shares is what its directives have declared. -/
theorem sharedBy_readEach
    (catalog : Catalog)
    (supply : TokenSupply)
    (requests : List Request) :
    SharedBy catalog
      (readEach catalog { supply } requests).1.granted
      (readEach catalog { supply } requests).2.locals :=
  @SharedBy.readEach catalog [] { supply } (.nothing catalog) requests

theorem map_fst_readEach
    (catalog : Catalog)
    (draft : Draft)
    (requests : List Request) :
    (readEach catalog draft requests).1.map Prod.fst = requests := by
  induction requests generalizing draft with
  | nil => rfl
  | cons request requests induction_hypothesis =>
      simp only [readEach, List.map_cons, induction_hypothesis]

/--
A directive that is refused leaves the shared state as it was, and the state
behind a sequence of directives is what those that were made have declared:
their arguments in order, with different names; the names they assign in the
order of first assignment, each with the value assigned last; and their
wildcards in order, numbered from zero.  A kind of state that none of them
has touched is not there.
-/
theorem readEach_sharedState
    (catalog : Catalog)
    (supply : TokenSupply)
    (requests : List Request) :
    (∀ (draft after : Draft) (request : Request) (error : ReadError),
        request.read catalog draft = (.error error, after) →
          after.locals = draft.locals) ∧
      ∃ (outcomes : Outcomes) (last : Draft),
        readEach catalog { supply } requests = (outcomes, last) ∧
        outcomes.map Prod.fst = requests ∧
        last.locals.arguments =
          .heldIf (outcomes.granted.touched .arguments)
            outcomes.granted.arguments ∧
        (outcomes.granted.arguments.map Argument.name).Nodup ∧
        (∃ bindings : Dictionary Text,
          last.locals.bindings =
            .heldIf (outcomes.granted.touched .bindings) bindings ∧
          bindings.names =
            (outcomes.granted.assignments.map Prod.fst).eraseDups ∧
          ∀ name,
            bindings.get? name =
              outcomes.granted.assignments.reverse.lookup name) ∧
        ∃ resolution : Resolution,
          last.locals.wildcards =
            .heldIf (outcomes.granted.touched .wildcards) resolution ∧
          resolution.wildcards =
            outcomes.granted.wildcards.map Prod.snd ∧
          Compiler.expansions outcomes.granted.wildcards =
            outcomes.granted.expansions catalog ∧
          ∀ (place : Nat) (wildcard : Wildcard),
            resolution.wildcards[place]? = some wildcard →
              wildcard.index = place := by
  refine ⟨fun _ _ _ _ => locals_of_read_error, _, _, rfl,
    map_fst_readEach catalog { supply } requests, ?_⟩
  have shared := sharedBy_readEach catalog supply requests
  rcases shared.wildcards with ⟨resolution, registered, wildcards_eq, slot⟩
  exact ⟨shared.arguments, shared.distinctArguments,
    ⟨_, shared.bindings, Dictionary.names_putAll_nil _,
      Dictionary.get?_putAll_nil _⟩,
    resolution, slot, wildcards_eq, shared.expansions,
    fun _ _ found => registered.index_eq found⟩

end Directive

end AnnotatedSql
