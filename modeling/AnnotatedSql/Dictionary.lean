import AnnotatedSql.Text.Basic

/-!
# Dictionaries in order of assignment

A dictionary assigns values to names.  Its entries are kept in the order in
which their names were first assigned; assigning a name again replaces its
value and leaves the order alone.

A dictionary of places stands beside a list of items and says where the item
of a name is.
-/

namespace AnnotatedSql

/-- Names with their values, each name at most once when built with
`Dictionary.put`. -/
abbrev Dictionary (Value : Type) := List (Text × Value)

namespace Dictionary

variable {Value : Type}

/-- The value of a name. -/
def get?
    (name : Text)
    (entries : Dictionary Value) : Option Value :=
  List.lookup name entries

/-- A name has a value. -/
def contains
    (name : Text)
    (entries : Dictionary Value) : Bool :=
  (get? name entries).isSome

/-- The names in order. -/
def names (entries : Dictionary Value) : List Text :=
  entries.map Prod.fst

/-- Assign a value to a name. -/
def put
    (name : Text)
    (value : Value) : Dictionary Value → Dictionary Value
  | [] => [(name, value)]
  | (name', value') :: entries =>
      if name = name' then (name, value) :: entries
      else (name', value') :: put name value entries

/-- Assign every entry of the second dictionary in turn. -/
def putAll (entries additions : Dictionary Value) : Dictionary Value :=
  additions.foldl (fun entries (name, value) => put name value entries) entries

/-- The item at the place of a name. -/
def itemNamed?
    {Item : Type}
    (places : Dictionary Nat)
    (items : List Item)
    (name : Text) : Option Item := do
  let place ← places.get? name
  items[place]?

end Dictionary

end AnnotatedSql
