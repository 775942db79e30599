import DocLint.Check.Docstring
import DocLint.Config.Parse

/-!
DocLint.Config.Rules: the rules that a configuration stands for.

A value of the wrong type is read as empty, except a name, which is read as its text. Whether a check
comes to use such a value is told in `DocLint.Config.Fault`.
-/

namespace DocLint

/-- The section that a specification stands for, with a given order. -/
def SectionSpec.toSection (s : SectionSpec) (order : Option Int) : Section :=
  { name := s.name.plain
    kind := SectionKind.ofLabel (s.kind.text?.getD "")
    order
    admonition := s.admonition.text?
    marker := s.marker.text?.getD ""
    required := s.required.truthy }

/-- The integer of a value that is one. -/
def Value.int? : Value → Option Int
  | .int n => some n
  | _ => Option.none

namespace Config

/-- The ordered sections with their indices, sorted by order. -/
def sortedOrders (c : Config) : Except Fault (List (SectionSpec × Nat)) :=
  sortByValue (·.1.order) (c.sections.zipIdx.filter (·.1.isOrdered))

/-- The order of each section: the configured one if all are integers, and otherwise its rank. -/
def orders (c : Config) : List (Option Int) :=
  if c.sections.all fun s => !s.isOrdered || s.order.int?.isSome then
    c.sections.map (·.order.int?)
  else
    let sorted := (c.sortedOrders.toOption.getD []).map (·.2)
    c.sections.zipIdx.map fun (s, i) =>
      if s.isOrdered then (sorted.idxOf? i).map Int.ofNat else none

/-- The rules that a configuration stands for. -/
def toRules (c : Config) : Rules :=
  { options :=
      { allowUndefined := c.settings.allowUndefined.truthy
        requireDocstrings := c.settings.requireDocstrings.truthy
        checkPrivate := c.settings.checkPrivate.truthy
        checkTypes := c.settings.checkTypes.truthy
        optionalStyle := .ofLabel (c.settings.optionalStyle.text?.getD "") }
    sections := (c.sections.zip c.orders).map fun (s, order) => s.toSection order }

/-- The required sections that apply to an item, as configured. -/
def requiredFor (c : Config) (i : Item) : List SectionSpec :=
  c.sections.filter fun s => (s.toSection none).required && (s.toSection none).appliesTo i

end Config

end DocLint
