import Mathlib

/-!
# Composed outcomes

An outcome in `Except` that is composed of others succeeds exactly when they
do, and then has the value that they make up; otherwise it fails with the
first fault among them.  These equivalences take composed outcomes apart, so
that no proof unfolds the composition itself.
-/

namespace AnnotatedSql.Outcome

variable
    {Fault Fault' Value Value' : Type}

@[simp]
theorem ok_bind
    (value : Value)
    (next : Value → Except Fault Value') :
    (Except.ok value >>= next) = next value :=
  rfl

@[simp]
theorem error_bind
    (fault : Fault)
    (next : Value → Except Fault Value') :
    (Except.error fault >>= next) = .error fault :=
  rfl

theorem bind_eq_ok_iff
    {outcome : Except Fault Value}
    {next : Value → Except Fault Value'}
    {result : Value'} :
    (outcome >>= next) = .ok result ↔
      ∃ value, outcome = .ok value ∧ next value = .ok result := by
  cases outcome with
  | error error =>
      constructor
      · intro accepted
        exact nomatch accepted
      · rintro ⟨value, accepted, _⟩
        exact nomatch accepted
  | ok value =>
      constructor
      · intro accepted
        exact ⟨value, rfl, accepted⟩
      · rintro ⟨value', equality, accepted⟩
        cases equality
        exact accepted

@[simp]
theorem mapError_eq_ok_iff
    {outcome : Except Fault Value}
    {wrap : Fault → Fault'}
    {result : Value} :
    outcome.mapError wrap = .ok result ↔ outcome = .ok result := by
  cases outcome <;> simp [Except.mapError]

theorem bind_eq_error_iff
    {outcome : Except Fault Value}
    {next : Value → Except Fault Value'}
    {fault : Fault} :
    (outcome >>= next) = .error fault ↔
      outcome = .error fault ∨
        ∃ value, outcome = .ok value ∧ next value = .error fault := by
  cases outcome with
  | error error =>
      constructor
      · intro refused
        cases refused
        exact .inl rfl
      · rintro (refused | ⟨value, accepted, _⟩)
        · cases refused
          rfl
        · exact nomatch accepted
  | ok value =>
      constructor
      · intro refused
        exact .inr ⟨value, rfl, refused⟩
      · rintro (refused | ⟨value', equality, refused⟩)
        · exact nomatch refused
        · cases equality
          exact refused

theorem mapError_eq_error_iff
    {outcome : Except Fault Value}
    {wrap : Fault → Fault'}
    {fault : Fault'} :
    outcome.mapError wrap = .error fault ↔
      ∃ cause, outcome = .error cause ∧ wrap cause = fault := by
  cases outcome <;> simp [Except.mapError]

theorem map_eq_ok_iff
    {outcome : Except Fault Value}
    {change : Value → Value'}
    {result : Value'} :
    outcome.map change = .ok result ↔
      ∃ value, outcome = .ok value ∧ change value = result := by
  cases outcome <;> simp [Except.map]

@[simp]
theorem map_eq_error_iff
    {outcome : Except Fault Value}
    {change : Value → Value'}
    {fault : Fault} :
    outcome.map change = .error fault ↔ outcome = .error fault := by
  cases outcome <;> simp [Except.map]

/-- Two outcomes that both fail, or both succeed with related values. -/
inductive Agree (related : Value → Value' → Prop) :
    Except Fault Value → Except Fault' Value' → Prop where
  | failed (fault : Fault) (fault' : Fault') :
      Agree related (.error fault) (.error fault')
  | succeeded
      {value : Value}
      {value' : Value'}
      (holds : related value value') :
      Agree related (.ok value) (.ok value')

namespace Agree

variable
    {Next Next' : Type}
    {related : Value → Value' → Prop}
    {related' : Next → Next' → Prop}
    {outcome : Except Fault Value}
    {outcome' : Except Fault' Value'}

theorem bind
    (agree : Agree related outcome outcome')
    {next : Value → Except Fault Next}
    {next' : Value' → Except Fault' Next'}
    (agree_next :
      ∀ value value', related value value' →
        Agree related' (next value) (next' value')) :
    Agree related' (outcome >>= next) (outcome' >>= next') := by
  cases agree with
  | failed fault fault' => exact .failed fault fault'
  | succeeded holds => exact agree_next _ _ holds

theorem map
    (agree : Agree related outcome outcome')
    {change : Value → Next}
    {change' : Value' → Next'}
    (related_change :
      ∀ value value', related value value' →
        related' (change value) (change' value')) :
    Agree related' (outcome.map change) (outcome'.map change') := by
  cases agree with
  | failed fault fault' => exact .failed fault fault'
  | succeeded holds => exact .succeeded (related_change _ _ holds)

theorem mono
    {weaker : Value → Value' → Prop}
    (agree : Agree related outcome outcome')
    (implies : ∀ value value', related value value' → weaker value value') :
    Agree weaker outcome outcome' := by
  cases agree with
  | failed fault fault' => exact .failed fault fault'
  | succeeded holds => exact .succeeded (implies _ _ holds)

theorem refl (outcome : Except Fault Value) : Agree Eq outcome outcome := by
  cases outcome with
  | error fault => exact .failed fault fault
  | ok value => exact .succeeded rfl

theorem mapError
    {Cause Cause' : Type}
    (agree : Agree related outcome outcome')
    {wrap : Fault → Cause}
    {wrap' : Fault' → Cause'} :
    Agree related (outcome.mapError wrap) (outcome'.mapError wrap') := by
  cases agree with
  | failed fault fault' => exact .failed (wrap fault) (wrap' fault')
  | succeeded holds => exact .succeeded holds

theorem error_left
    {fault : Fault}
    (agree : Agree related (.error fault) outcome') :
    ∃ fault', outcome' = .error fault' := by
  cases agree with
  | failed _ fault' => exact ⟨fault', rfl⟩

theorem ok_left
    {value : Value}
    (agree : @Agree Fault _ _ _ related (.ok value) outcome') :
    ∃ value', outcome' = .ok value' ∧ related value value' := by
  cases agree with
  | succeeded holds => exact ⟨_, rfl, holds⟩

/-- Outcomes agree if each success of the one has its counterpart, and the
other succeeds no more often. -/
theorem of_ok
    (counterpart :
      ∀ value, outcome = .ok value →
        ∃ value', outcome' = .ok value' ∧ related value value')
    (noMore :
      ∀ value', outcome' = .ok value' → ∃ value, outcome = .ok value) :
    Agree related outcome outcome' := by
  cases outcome with
  | ok value =>
      rcases counterpart value rfl with ⟨value', rfl, holds⟩
      exact .succeeded holds
  | error fault =>
      cases outcome' with
      | error fault' => exact .failed fault fault'
      | ok value' =>
          rcases noMore value' rfl with ⟨value, impossible⟩
          exact nomatch impossible

/-- The one outcome is a success if the other is. -/
theorem exists_ok_iff (agree : Agree related outcome outcome') :
    (∃ value, outcome = .ok value) ↔ ∃ value', outcome' = .ok value' := by
  cases agree <;> simp

end Agree

/--
A property that every successful step keeps holds of the state behind a
successful run.
-/
theorem foldlM_induction
    {Item : Type}
    {step : Value → Item → Except Fault Value}
    (Holds : Value → Prop)
    {items : List Item}
    (keeps :
      ∀ (state : Value), ∀ item ∈ items, ∀ (next : Value),
        step state item = .ok next → Holds state → Holds next)
    {start finish : Value}
    (initially : Holds start)
    (run : items.foldlM step start = .ok finish) :
    Holds finish := by
  induction items generalizing start with
  | nil =>
      cases run
      exact initially
  | cons item items induction_hypothesis =>
      rw [List.foldlM_cons, bind_eq_ok_iff] at run
      rcases run with ⟨state, stepped, run⟩
      refine induction_hypothesis ?_
        (keeps start item (List.mem_cons_self ..) state stepped initially) run
      intro state item member
      exact keeps state item (List.mem_cons_of_mem _ member)

/-- Every item of a successful run has had a step, from a state with a
property that the steps keep. -/
theorem exists_step_of_foldlM
    {Item : Type}
    {step : Value → Item → Except Fault Value}
    (Holds : Value → Prop)
    {items : List Item}
    (keeps :
      ∀ (state : Value), ∀ item ∈ items, ∀ (next : Value),
        step state item = .ok next → Holds state → Holds next)
    {start finish : Value}
    (initially : Holds start)
    (run : items.foldlM step start = .ok finish) :
    ∀ item ∈ items,
      ∃ state next, Holds state ∧ step state item = .ok next := by
  induction items generalizing start with
  | nil => exact List.forall_mem_nil _
  | cons item items induction_hypothesis =>
      rw [List.foldlM_cons, bind_eq_ok_iff] at run
      rcases run with ⟨next, stepped, run⟩
      refine List.forall_mem_cons.2 ⟨⟨start, next, initially, stepped⟩, ?_⟩
      refine induction_hypothesis ?_
        (keeps start item (List.mem_cons_self ..) next stepped initially) run
      intro state item member
      exact keeps state item (List.mem_cons_of_mem _ member)

/-- Outcomes in turn succeed with one value for each item. -/
theorem mapM_eq_ok_iff
    {Item : Type}
    {outcome : Item → Except Fault Value}
    {items : List Item}
    {values : List Value} :
    items.mapM outcome = .ok values ↔
      List.Forall₂ (fun item value => outcome item = .ok value)
        items values := by
  induction items generalizing values with
  | nil =>
      rw [List.mapM_nil, List.forall₂_nil_left_iff]
      constructor
      · intro succeeded
        cases succeeded
        rfl
      · rintro rfl
        rfl
  | cons item items induction_hypothesis =>
      simp only [List.mapM_cons, bind_eq_ok_iff, List.forall₂_cons_left_iff,
        induction_hypothesis]
      constructor
      · rintro ⟨value, first, others, later, succeeded⟩
        cases succeeded
        exact ⟨value, others, first, later, rfl⟩
      · rintro ⟨value, others, first, later, rfl⟩
        exact ⟨value, first, others, later, rfl⟩

/-- Outcomes in turn succeed if each of them does. -/
theorem exists_mapM_eq_ok_iff
    {Item : Type}
    {outcome : Item → Except Fault Value}
    {items : List Item} :
    (∃ values, items.mapM outcome = .ok values) ↔
      ∀ item ∈ items, ∃ value, outcome item = .ok value := by
  simp only [mapM_eq_ok_iff]
  induction items with
  | nil => simp
  | cons item items induction_hypothesis =>
      simp only [List.forall₂_cons_left_iff]
      rw [List.forall_mem_cons, ← induction_hypothesis]
      constructor
      · rintro ⟨_, value, others, first, later, rfl⟩
        exact ⟨⟨value, first⟩, others, later⟩
      · rintro ⟨⟨value, first⟩, others, later⟩
        exact ⟨value :: others, value, others, first, later, rfl⟩

/-- Outcomes in turn fail with the first fault among them. -/
theorem mapM_eq_error_iff
    {Item : Type}
    {outcome : Item → Except Fault Value}
    {items : List Item}
    {fault : Fault} :
    items.mapM outcome = .error fault ↔
      ∃ before item after,
        items = before ++ item :: after ∧
          (∀ earlier ∈ before, ∃ value, outcome earlier = .ok value) ∧
          outcome item = .error fault := by
  induction items with
  | nil =>
      constructor
      · intro refused
        exact nomatch refused
      · rintro ⟨before, item, after, items_eq, _⟩
        cases before <;> exact nomatch items_eq
  | cons item items induction_hypothesis =>
      rw [List.mapM_cons, bind_eq_error_iff]
      constructor
      · rintro (refused | ⟨value, accepted, refused⟩)
        · exact ⟨[], item, items, rfl, List.forall_mem_nil _, refused⟩
        · rcases bind_eq_error_iff.1 refused with refused | ⟨_, _, impossible⟩
          · rcases induction_hypothesis.1 refused with
              ⟨before, later, after, rfl, accepted_before, refused⟩
            exact ⟨item :: before, later, after, rfl,
              List.forall_mem_cons.2 ⟨⟨value, accepted⟩, accepted_before⟩,
              refused⟩
          · exact nomatch impossible
      · rintro ⟨_ | ⟨first, before⟩, later, after, items_eq, accepted_before,
          refused⟩
        · cases items_eq
          exact .inl refused
        · cases items_eq
          rw [List.forall_mem_cons] at accepted_before
          rcases accepted_before with ⟨⟨value, accepted⟩, accepted_before⟩
          refine .inr ⟨value, accepted, bind_eq_error_iff.2 (.inl ?_)⟩
          exact induction_hypothesis.2
            ⟨before, later, after, rfl, accepted_before, refused⟩

/--
Two runs are the same if their steps are on all states with a property that
the steps of one of them keep.
-/
theorem foldlM_congr
    {Item : Type}
    {step step' : Value → Item → Except Fault Value}
    (Holds : Value → Prop)
    {items : List Item}
    (keeps :
      ∀ (state : Value), ∀ item ∈ items, ∀ (next : Value),
        step state item = .ok next → Holds state → Holds next)
    (same :
      ∀ (state : Value), ∀ item ∈ items,
        Holds state → step' state item = step state item)
    {start : Value}
    (initially : Holds start) :
    items.foldlM step' start = items.foldlM step start := by
  induction items generalizing start with
  | nil => rfl
  | cons item items induction_hypothesis =>
      have first := List.mem_cons_self (a := item) (l := items)
      rw [List.foldlM_cons, List.foldlM_cons, same start item first initially]
      cases stepped : step start item with
      | error fault => rfl
      | ok next =>
          exact induction_hypothesis
            (fun state item member =>
              keeps state item (List.mem_cons_of_mem _ member))
            (fun state item member =>
              same state item (List.mem_cons_of_mem _ member))
            (keeps start item first next stepped initially)

end AnnotatedSql.Outcome
