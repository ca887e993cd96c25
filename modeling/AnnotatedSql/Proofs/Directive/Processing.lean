import AnnotatedSql.Proofs.Directive.Registration

/-!
# Result columns are attributed once

Every wildcard directive processes the result columns of its statement, and
they share one resolution.  The first of them attributes the columns; for all
that follow the resolution is already processed, and they leave the columns
as they are, like the directives that are no wildcards.
-/

namespace AnnotatedSql.Directive

open AnnotatedSql.Wildcard

theorem processColumns_of_no_wildcard
    {directive : Directive}
    (noWildcard : directive.wildcard? = none)
    (columns : List ResultColumn)
    (locals : StatementLocals) :
    directive.processColumns columns locals = (.ok (), columns, locals) := by
  cases directive with
  | wildcard token expanded => exact nomatch noWildcard
  | text value => rfl
  | declaration => rfl
  | replacement probed final => rfl

theorem processColumns_wildcard
    {locals : StatementLocals}
    {resolution : Resolution}
    (found : locals.get? .wildcards = some resolution)
    (token : MarkerToken)
    (expanded : Wildcard)
    (columns : List ResultColumn) :
    (Directive.wildcard token expanded).processColumns columns locals =
      ((resolution.process columns).1, (resolution.process columns).2.1,
        locals.put .wildcards (some (resolution.process columns).2.2)) := by
  simp only [processColumns, found]

theorem process_processed
    {resolution : Resolution}
    (processed : resolution.processed = true)
    (columns : List ResultColumn) :
    resolution.process columns = (.ok (), columns, resolution) := by
  rw [Resolution.process, if_pos processed]

/-- Without wildcards, result columns stay as they are. -/
theorem processAll_of_no_wildcards
    {directives : List Directive}
    (noWildcards : wildcards directives = [])
    (columns : List ResultColumn)
    (locals : StatementLocals) :
    processAll columns locals directives = (.ok (), columns, locals) := by
  induction directives with
  | nil => rfl
  | cons directive directives induction_hypothesis =>
      rw [wildcards, List.filterMap_eq_nil_iff] at noWildcards
      have head := noWildcards directive (List.mem_cons_self ..)
      rw [processAll, processColumns_of_no_wildcard head]
      apply induction_hypothesis
      rw [wildcards, List.filterMap_eq_nil_iff]
      exact fun other member =>
        noWildcards other (List.mem_cons_of_mem _ member)

/-- Once they are attributed, result columns stay as they are. -/
theorem processAll_of_processed
    {directives : List Directive}
    {locals : StatementLocals}
    {resolution : Resolution}
    (found : locals.get? .wildcards = some resolution)
    (processed : resolution.processed = true)
    (columns : List ResultColumn) :
    ∃ after : StatementLocals,
      processAll columns locals directives = (.ok (), columns, after) := by
  induction directives generalizing locals with
  | nil => exact ⟨locals, rfl⟩
  | cons directive directives induction_hypothesis =>
      cases wildcard_eq : directive.wildcard? with
      | none =>
          rw [processAll, processColumns_of_no_wildcard wildcard_eq]
          exact induction_hypothesis found
      | some pair =>
          cases directive with
          | wildcard token expanded =>
              rw [processAll, processColumns_wildcard found,
                process_processed processed]
              exact induction_hypothesis rfl
          | text value => exact nomatch wildcard_eq
          | declaration => exact nomatch wildcard_eq
          | replacement probed final => exact nomatch wildcard_eq

/-- The first wildcard attributes the result columns, and the others nothing. -/
theorem processAll_of_wildcards
    {directives : List Directive}
    {locals : StatementLocals}
    {resolution : Resolution}
    (found : locals.get? .wildcards = some resolution)
    (unprocessed : resolution.processed = false)
    (someWildcard : wildcards directives ≠ [])
    {columns attributed : List ResultColumn}
    (accepted : resolution.attributed columns = .ok attributed) :
    ∃ after : StatementLocals,
      processAll columns locals directives = (.ok (), attributed, after) := by
  induction directives with
  | nil => exact absurd rfl someWildcard
  | cons directive directives induction_hypothesis =>
      cases directive with
      | wildcard token expanded =>
          have processed :=
            (Resolution.process_eq_ok_iff unprocessed).2 ⟨accepted, rfl⟩
          rw [processAll, processColumns_wildcard found, processed]
          exact processAll_of_processed rfl rfl attributed
      | text value => exact induction_hypothesis someWildcard
      | declaration => exact induction_hypothesis someWildcard
      | replacement probed final => exact induction_hypothesis someWildcard

end AnnotatedSql.Directive
