import AnnotatedSql.Proofs.Directive.Processing
import AnnotatedSql.Proofs.Directive.SharedState

/-!
# Result columns are reconciled at most once

The directives of a statement may be given result columns in any order and
any number of times, each time other columns.  As long as no wildcard has
succeeded, a failure changes neither the columns nor the state that the
directives share, so that the next wildcard stands where the first one stood.
Once a wildcard has succeeded, all columns are left as they are.

`Reconciliation` tells these two situations apart by what has come of the
calls so far; every call leads from one of them to one of them.
-/

namespace AnnotatedSql

open AnnotatedSql.Schema AnnotatedSql.Wildcard

theorem Locals.put_of_get?
    {locals : StatementLocals}
    {resolution : Resolution}
    (found : locals.get? .wildcards = some resolution) :
    locals.put .wildcards (some resolution) = locals := by
  rcases locals with ⟨arguments, bindings, _ | _ | held⟩
  · cases found
  · cases found
  · cases found
    rfl

namespace Directive

/-! ## One call -/

section

variable
    {directive : Directive}
    {locals : StatementLocals}
    {resolution : Resolution}

/-- Before columns have been attributed, a wildcard attributes its columns or
fails without a trace. -/
theorem processColumns_unprocessed
    (isWildcard : directive.wildcard? ≠ none)
    (found : locals.get? .wildcards = some resolution)
    (unprocessed : resolution.processed = false)
    (columns : List ResultColumn) :
    directive.processColumns columns locals =
      match resolution.attributed columns with
      | .ok attributed =>
          (.ok (), attributed,
            locals.put .wildcards (some { resolution with processed := true }))
      | .error error => (.error error, columns, locals) := by
  cases directive with
  | wildcard token expanded =>
      rw [processColumns_wildcard found, Resolution.process, unprocessed]
      cases resolution.attributed columns with
      | ok attributed => rfl
      | error error =>
          simp only [Bool.false_eq_true, if_false, Locals.put_of_get? found]
  | text value => exact absurd rfl isWildcard
  | declaration => exact absurd rfl isWildcard
  | replacement probed final => exact absurd rfl isWildcard

/-- Once columns have been attributed, no directive changes any. -/
theorem processColumns_processed
    (found : locals.get? .wildcards = some resolution)
    (processed : resolution.processed = true)
    (directive : Directive)
    (columns : List ResultColumn) :
    directive.processColumns columns locals = (.ok (), columns, locals) := by
  cases wildcard_eq : directive.wildcard? with
  | none => exact processColumns_of_no_wildcard wildcard_eq columns locals
  | some pair =>
      cases directive with
      | wildcard token expanded =>
          rw [processColumns_wildcard found, process_processed processed]
          simp only [Locals.put_of_get? found]
      | text value => cases wildcard_eq
      | declaration => cases wildcard_eq
      | replacement probed final => cases wildcard_eq

end

/-! ## Calls in turn -/

/-- A directive that is given result columns, what came of it, and the columns
that it left. -/
structure Turn where
  directive : Directive
  given : List ResultColumn
  outcome : Except AttributionError Unit
  left : List ResultColumn

/-- A wildcard has succeeded. -/
def Turn.Reconciles (turn : Turn) : Prop :=
  turn.directive.wildcard? ≠ none ∧ turn.outcome = .ok ()

/-- Gives directives their columns in turn, and goes on behind failures. -/
def processEach
    (locals : StatementLocals) :
    List (Directive × List ResultColumn) → List Turn × StatementLocals
  | [] => ([], locals)
  | (directive, columns) :: calls =>
      let (outcome, left, after) := directive.processColumns columns locals
      let (turns, last) := processEach after calls
      (⟨directive, columns, outcome, left⟩ :: turns, last)

/-- The state behind some turns, when `start` was the state before them. -/
inductive Reconciliation
    (start : StatementLocals)
    (turns : List Turn) :
    StatementLocals → Prop where
  | pending
      (unreconciled : ∀ turn ∈ turns, ¬ turn.Reconciles) :
      Reconciliation start turns start
  | settled
      {locals : StatementLocals}
      {resolution : Resolution}
      (reconciled : ∃ turn ∈ turns, turn.Reconciles)
      (found : locals.get? .wildcards = some resolution)
      (processed : resolution.processed = true) :
      Reconciliation start turns locals

/-- If a directive is a wildcard, columns are yet to be attributed to it. -/
def Awaits (directive : Directive) (locals : StatementLocals) : Prop :=
  directive.wildcard? ≠ none →
    ∃ resolution : Resolution,
      locals.get? .wildcards = some resolution ∧
        resolution.processed = false

namespace Reconciliation

theorem initial (start : StatementLocals) : Reconciliation start [] start := by
  refine .pending ?_
  rintro turn ⟨⟩

variable
    {start locals after : StatementLocals}
    {turns : List Turn}
    {directive : Directive}
    {columns left : List ResultColumn}
    {outcome : Except AttributionError Unit}

/-- A turn of a directive that awaits columns at the start. -/
theorem turn
    (reconciliation : Reconciliation start turns locals)
    (awaits : directive.Awaits start)
    (called :
      directive.processColumns columns locals = (outcome, left, after)) :
    Reconciliation start (turns ++ [⟨directive, columns, outcome, left⟩])
      after := by
  cases reconciliation with
  | pending unreconciled =>
      have pending
          (fruitless :
            ¬ Turn.Reconciles ⟨directive, columns, outcome, left⟩) :
          Reconciliation start
            (turns ++ [⟨directive, columns, outcome, left⟩]) start := by
        refine .pending ?_
        intro turn member
        rcases List.mem_append.1 member with before | last
        · exact unreconciled turn before
        · rw [List.mem_singleton.1 last]
          exact fruitless
      by_cases isWildcard : directive.wildcard? = none
      · rw [processColumns_of_no_wildcard isWildcard] at called
        cases called
        exact pending fun reconciles => reconciles.1 isWildcard
      · rcases awaits isWildcard with ⟨resolution, found, unprocessed⟩
        rw [processColumns_unprocessed isWildcard found unprocessed] at called
        cases attributed_eq : resolution.attributed columns with
        | ok attributed =>
            rw [attributed_eq] at called
            cases called
            exact .settled
              ⟨_, List.mem_append_right _ (List.mem_singleton_self _),
                isWildcard, rfl⟩ rfl rfl
        | error error =>
            rw [attributed_eq] at called
            cases called
            exact pending fun reconciles => nomatch reconciles.2
  | settled reconciled found processed =>
      rw [processColumns_processed found processed] at called
      cases called
      rcases reconciled with ⟨turn, member, reconciles⟩
      exact .settled ⟨turn, List.mem_append_left _ member, reconciles⟩ found
        processed

/-- Turns of directives that await columns at the start. -/
theorem processEach
    (reconciliation : Reconciliation start turns locals)
    {calls : List (Directive × List ResultColumn)}
    (awaits : ∀ call ∈ calls, call.1.Awaits start) :
    Reconciliation start (turns ++ (processEach locals calls).1)
      (Directive.processEach locals calls).2 := by
  induction calls generalizing turns locals with
  | nil =>
      rw [Directive.processEach, List.append_nil]
      exact reconciliation
  | cons call calls induction_hypothesis =>
      rcases call with ⟨directive, columns⟩
      rcases called : directive.processColumns columns locals with
        ⟨outcome, left, after⟩
      rw [List.forall_mem_cons] at awaits
      simp only [Directive.processEach, called]
      rw [List.append_cons]
      exact induction_hypothesis (reconciliation.turn awaits.1 called) awaits.2

end Reconciliation

/-! ## The directives of a statement -/

section

variable
    {catalog : Catalog}
    {granted : Granted}
    {locals : StatementLocals}
    {directive : Directive}

/-- The wildcards of a statement find all of them registered. -/
theorem SharedBy.exists_resolution
    (shared : SharedBy catalog granted locals)
    (member : directive ∈ granted.directives)
    (isWildcard : directive.wildcard? ≠ none) :
    ∃ resolution : Resolution,
      locals.get? .wildcards = some resolution ∧
        resolution.Registered ∧
        resolution.wildcards = granted.wildcards.map Prod.snd := by
  rcases shared.wildcards with ⟨resolution, registered, wildcards_eq, slot⟩
  have touched : granted.touched .wildcards = true := by
    by_contra untouched
    have nothing :=
      shared.wildcards_of_untouched (Bool.eq_false_iff.2 untouched)
    rw [Granted.wildcards, Directive.wildcards, List.filterMap_eq_nil_iff]
      at nothing
    exact isWildcard (nothing directive member)
  refine ⟨resolution, ?_, registered, wildcards_eq⟩
  have slot_eq : locals.get? .wildcards = locals.wildcards.get? := rfl
  rw [slot_eq, slot, Slot.get?_heldIf, if_pos touched]

theorem SharedBy.awaits
    (shared : SharedBy catalog granted locals)
    (member : directive ∈ granted.directives) :
    directive.Awaits locals := by
  intro isWildcard
  rcases shared.exists_resolution member isWildcard with
    ⟨resolution, found, registered, _⟩
  exact ⟨resolution, found, registered.unprocessed⟩

/-- What the first wildcard does to columns: well-bracketed columns become
their attributed blocks, and others make it fail without a trace. -/
theorem SharedBy.processColumns_first
    (shared : SharedBy catalog granted locals)
    (member : directive ∈ granted.directives)
    (isWildcard : directive.wildcard? ≠ none)
    (columns : List ResultColumn) :
    ∃ resolution : Resolution,
      locals.get? .wildcards = some resolution ∧
      resolution.processed = false ∧
      resolution.wildcards = granted.wildcards.map Prod.snd ∧
      (∀ left after,
        directive.processColumns columns locals = (.ok (), left, after) ↔
          (∃ blocks : List (Resolution.Block resolution),
            columns = blocks.flatMap Resolution.Block.reported ∧
              left = blocks.flatMap Resolution.Block.attributed) ∧
          after =
            locals.put .wildcards
              (some { resolution with processed := true })) ∧
      (¬ resolution.WellBracketed columns →
        ∃ error,
          directive.processColumns columns locals =
            (.error error, columns, locals)) := by
  rcases shared.exists_resolution member isWildcard with
    ⟨resolution, found, registered, wildcards_eq⟩
  refine ⟨resolution, found, registered.unprocessed, wildcards_eq, ?_, ?_⟩
  · intro left after
    rw [processColumns_unprocessed isWildcard found registered.unprocessed,
      ← Resolution.attributed_eq_ok_iff registered]
    cases resolution.attributed columns with
    | error error => simp
    | ok attributed => simp [eq_comm]
  · intro notBracketed
    rw [processColumns_unprocessed isWildcard found registered.unprocessed]
    cases attributed_eq : resolution.attributed columns with
    | error error => exact ⟨error, rfl⟩
    | ok attributed =>
        rcases (Resolution.attributed_eq_ok_iff registered).1 attributed_eq
          with ⟨blocks, cut, _⟩
        exact absurd ⟨blocks, cut⟩ notBracketed

end

variable
    {catalog : Catalog}
    {supply : TokenSupply}
    {requests : List Request}
    {outcomes : Outcomes}
    {made : Draft}

/--
Behind any calls of the directives of a statement, a directive that is no
wildcard leaves its columns alone.  As long as no wildcard has succeeded, the
shared state is the one that the statement was made with, and a wildcard does
what any other would have done at first: well-bracketed columns become their
attributed blocks, and others are left as they are by a failure without a
trace.  Once a wildcard has succeeded, no call changes columns or fails.
-/
theorem processColumns_once
    (read : readEach catalog { supply } requests = (outcomes, made))
    {calls : List (Directive × List ResultColumn)}
    (callers : ∀ call ∈ calls, call.1 ∈ outcomes.granted.directives)
    {turns : List Turn}
    {locals : StatementLocals}
    (called : processEach made.locals calls = (turns, locals))
    {directive : Directive}
    (caller : directive ∈ outcomes.granted.directives)
    (columns : List ResultColumn) :
    (directive.wildcard? = none →
        directive.processColumns columns locals = (.ok (), columns, locals)) ∧
      ((∀ turn ∈ turns, ¬ turn.Reconciles) →
        locals = made.locals ∧
        (directive.wildcard? ≠ none →
          ∃ resolution : Resolution,
            locals.get? .wildcards = some resolution ∧
            resolution.processed = false ∧
            resolution.wildcards = outcomes.granted.wildcards.map Prod.snd ∧
            (∀ left after,
              directive.processColumns columns locals =
                  (.ok (), left, after) ↔
                (∃ blocks : List (Resolution.Block resolution),
                  columns = blocks.flatMap Resolution.Block.reported ∧
                    left = blocks.flatMap Resolution.Block.attributed) ∧
                after =
                  locals.put .wildcards
                    (some { resolution with processed := true })) ∧
            (¬ resolution.WellBracketed columns →
              ∃ error,
                directive.processColumns columns locals =
                  (.error error, columns, locals)))) ∧
      ((∃ turn ∈ turns, turn.Reconciles) →
        directive.processColumns columns locals =
          (.ok (), columns, locals)) := by
  have shared : SharedBy catalog outcomes.granted made.locals := by
    have shared := sharedBy_readEach catalog supply requests
    rw [read] at shared
    exact shared
  have reconciliation : Reconciliation made.locals turns locals := by
    have reconciliation :=
      (Reconciliation.initial made.locals).processEach
        fun call member => shared.awaits (callers call member)
    rw [called] at reconciliation
    exact reconciliation
  refine
    ⟨fun noWildcard => processColumns_of_no_wildcard noWildcard _ _, ?_, ?_⟩
  · intro unreconciled
    have same : locals = made.locals := by
      cases reconciliation with
      | pending _ => rfl
      | settled reconciled found processed =>
          rcases reconciled with ⟨turn, member, reconciles⟩
          exact absurd reconciles (unreconciled turn member)
    refine ⟨same, ?_⟩
    rw [same]
    intro isWildcard
    exact shared.processColumns_first caller isWildcard columns
  · intro reconciled
    cases reconciliation with
    | pending unreconciled =>
        rcases reconciled with ⟨turn, member, reconciles⟩
        exact absurd reconciles (unreconciled turn member)
    | settled _ found processed =>
        exact processColumns_processed found processed directive columns

/-! ## A self-join -/

def selfJoinTable : Table :=
  { name := "user"
    columns := [⟨"id", 0, .unknown⟩, ⟨"name", 1, .unknown⟩]
    columnPlaces := [("id", 0), ("name", 1)] }

def selfJoinCatalog : Catalog :=
  ({} : Catalog).withTable "user" selfJoinTable

/-- Two wildcards over one table, and between them one that is refused. -/
def selfJoinRequests : List Request :=
  [⟨.text, .text "SELECT "⟩,
    ⟨.wildcard, .element "wildcard" [("table", "user"), ("as", "x")] [] 1⟩,
    ⟨.wildcard, .element "wildcard" [("table", "nobody")] [] 1⟩,
    ⟨.wildcard, .element "wildcard" [("table", "user"), ("as", "y")] [] 1⟩]

def selfJoinWildcard (index : Nat) (tableAlias : Text) : Directive :=
  .wildcard Resolution.selfJoin.token ⟨index, selfJoinTable, tableAlias⟩

/-- Columns that end inside the first wildcard. -/
def unclosedColumns : List ResultColumn :=
  [⟨"wctest_0_b", .unknown, none⟩, ⟨"id", .unknown, none⟩]

/-- The first wildcard fails, and the second one attributes the columns. -/
theorem processColumns_once_selfJoin :
    ∃ (outcomes : Outcomes) (made : Draft),
      readEach selfJoinCatalog { supply := ⟨"test", []⟩ } selfJoinRequests =
          (outcomes, made) ∧
        outcomes.granted.directives =
          [.text "SELECT ", selfJoinWildcard 0 "x", selfJoinWildcard 1 "y"] ∧
        ∃ (turns : List Turn) (locals after : StatementLocals),
          processEach made.locals [(selfJoinWildcard 0 "x", unclosedColumns)] =
              (turns, locals) ∧
            (∀ turn ∈ turns, ¬ turn.Reconciles) ∧
            locals = made.locals ∧
            (selfJoinWildcard 1 "y").processColumns
                Resolution.selfJoinColumns locals =
              (.ok (), ((Resolution.selfJoin.process
                Resolution.selfJoinColumns).2.1), after) := by
  have unreconciled :
      ∀ turn ∈
        [(⟨selfJoinWildcard 0 "x", unclosedColumns,
          .error (.violation (.missingEnd 0)), unclosedColumns⟩ : Turn)],
        ¬ turn.Reconciles := by
    intro turn member reconciles
    rw [List.mem_singleton.1 member] at reconciles
    exact nomatch reconciles.2
  have once := @processColumns_once selfJoinCatalog ⟨"test", []⟩
    selfJoinRequests _ _ rfl
    [(selfJoinWildcard 0 "x", unclosedColumns)]
    (by
      intro call member
      rw [List.mem_singleton.1 member]
      exact List.mem_cons_of_mem _ List.mem_cons_self)
    _ _ rfl (selfJoinWildcard 1 "y")
    (List.mem_cons_of_mem _ (List.mem_cons_of_mem _ List.mem_cons_self))
    Resolution.selfJoinColumns
  rcases once.2.1 unreconciled with ⟨same, _⟩
  exact ⟨_, _, rfl, rfl, _, _, _, rfl, unreconciled, same, rfl⟩

end Directive

end AnnotatedSql
