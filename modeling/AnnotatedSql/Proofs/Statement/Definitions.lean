import AnnotatedSql.Proofs.Compiler.DocumentsInTurn
import AnnotatedSql.Proofs.Dictionary
import AnnotatedSql.Proofs.Outcome

/-!
# Files of statements

A document is a file of statements if its nodes are blank text and elements of
the right tags, each under a name of its own.  Reading the definitions makes
several checks in one pass, with the names that are taken so far; the pass
goes through exactly on files of statements, and then gives one definition for
each element, in order.  Otherwise it stops at the first node that offends
against what stands before it, with the fault of that node; of two elements of
one name it is the second that offends.
-/

namespace AnnotatedSql

open AnnotatedSql.Markup

/-! ## Files of statements and what offends in them -/

namespace Markup

end Markup

namespace StatementDefinition

/-- What is wrong with a node of a document when some names are taken. -/
inductive Offends (taken : List Text) : Node → StatementError → Prop where
  | text
      {value : Text}
      {point : CodePoint}
      (member : point ∈ value)
      (notBlank : point.isBlank = false) :
      Offends taken (.text value) (.textOutside value)
  | unknown
      {node : Node}
      {element : Element}
      (isElement : node.element? = some element)
      (unknown : element.tag ∉ tags.map Prod.fst) :
      Offends taken node (.unknownElement element.tag element.line)
  | nameless
      {node : Node}
      {element : Element}
      (isElement : node.element? = some element)
      (known : element.tag ∈ tags.map Prod.fst)
      (nameless :
        element.attribute? "name" = none ∨
          element.attribute? "name" = some []) :
      Offends taken node (.missingName element.tag element.line)
  | duplicate
      {node : Node}
      {element : Element}
      {name : Text}
      (isElement : node.element? = some element)
      (known : element.tag ∈ tags.map Prod.fst)
      (named : element.attribute? "name" = some name)
      (nonempty : name ≠ [])
      (member : name ∈ taken) :
      Offends taken node (.duplicateName name element.line)

/-- What offends when some names are taken offends when more are. -/
theorem Offends.mono
    {taken taken' : List Text}
    (more : taken ⊆ taken')
    {node : Node}
    {error : StatementError}
    (offends : Offends taken node error) :
    Offends taken' node error := by
  cases offends with
  | text member notBlank => exact .text member notBlank
  | unknown isElement unknown => exact .unknown isElement unknown
  | nameless isElement known nameless =>
      exact .nameless isElement known nameless
  | duplicate isElement known named nonempty member =>
      exact .duplicate isElement known named nonempty (more member)

/-! ## One node -/

section

variable
    {taken : List Text}
    {node : Node}
    {nodes : List Node}
    {value : Text}
    {element : Element}

end

end StatementDefinition

open StatementDefinition

end AnnotatedSql
