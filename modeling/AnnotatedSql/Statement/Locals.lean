import AnnotatedSql.Dictionary
import AnnotatedSql.Wildcard.Resolution

/-!
# State shared within a statement

The directives of a statement share state: its arguments, the values bound to
names, and its wildcards.  Each kind of state is created when a directive first
needs it, and is absent from a statement that no directive of the kind has
touched.
-/

namespace AnnotatedSql

/-- The kinds of state that directives share. -/
inductive StateKind where
  | arguments
  | bindings
  | wildcards
deriving DecidableEq

/-- A place for one state.  A vacant place has been filled with nothing, and is
created anew like an unset one. -/
inductive Slot (State : Type) where
  | unset
  | vacant
  | held (state : State)
deriving DecidableEq

namespace Slot

variable {State : Type}

/-- The state that is held. -/
def get? : Slot State → Option State
  | held state => some state
  | vacant | unset => none

/-- Something has been put into the place. -/
def isSet : Slot State → Bool
  | unset => false
  | vacant | held _ => true

/-- The place filled with a state or with nothing. -/
def ofOption : Option State → Slot State
  | some state => held state
  | none => vacant

end Slot

/-- One state of each kind. -/
structure Locals (State : StateKind → Type) where
  arguments : Slot (State .arguments) := .unset
  bindings : Slot (State .bindings) := .unset
  wildcards : Slot (State .wildcards) := .unset

namespace Locals

variable {State : StateKind → Type}

/-- The place of a kind. -/
def slot (locals : Locals State) : (kind : StateKind) → Slot (State kind)
  | .arguments => locals.arguments
  | .bindings => locals.bindings
  | .wildcards => locals.wildcards

/-- The state of a kind. -/
def get?
    (locals : Locals State)
    (kind : StateKind) : Option (State kind) :=
  (locals.slot kind).get?

/-- A state of a kind has been put, be it nothing. -/
def contains
    (locals : Locals State)
    (kind : StateKind) : Bool :=
  (locals.slot kind).isSet

/-- Puts a state of a kind, or nothing. -/
def put
    (locals : Locals State)
    (kind : StateKind)
    (state : Option (State kind)) : Locals State :=
  match kind with
  | .arguments => { locals with arguments := .ofOption state }
  | .bindings => { locals with bindings := .ofOption state }
  | .wildcards => { locals with wildcards := .ofOption state }

/-- The state of a kind, created if there is none; and whether it was
created. -/
def getOrCreate
    (locals : Locals State)
    (kind : StateKind)
    (create : Unit → Option (State kind)) :
    Option (State kind) × Bool × Locals State :=
  match locals.get? kind with
  | some state => (some state, false, locals)
  | none =>
      let state := create ()
      (state, true, locals.put kind state)

end Locals

/-- An argument of the function that is generated for a statement. -/
structure Argument where
  name : Text
  type : Text
deriving DecidableEq

/-- What the directives of a statement share: arguments in order of declaration,
values bound to names, and wildcards. -/
@[reducible]
def SharedState : StateKind → Type
  | .arguments => List Argument
  | .bindings => Dictionary Text
  | .wildcards => Wildcard.Resolution

/-- The shared state of one statement. -/
abbrev StatementLocals := Locals SharedState

end AnnotatedSql
