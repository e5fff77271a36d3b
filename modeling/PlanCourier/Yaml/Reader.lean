import PlanCourier.Yaml.Alias

/-!
# Reading YAML texts

`Yaml.read?` reads a text as one object, which is empty if the text holds no document. Everything
that a document may consist of is read: block and flow collections, scalars of all kinds, anchors
and aliases, tags and directives.
-/

namespace PlanCourier.Yaml

/-- The object that a text stands for. -/
def read? (s : String) : Option Json := do
  match ← document? (← tokens? s) with
  | none => some (.object [])
  | some n => n.document?

end PlanCourier.Yaml
