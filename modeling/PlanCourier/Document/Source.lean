import PlanCourier.Document
import PlanCourier.Files.Access

/-!
# Documents in files

The id of a document is the path of its file, taken from a directory.
-/

namespace PlanCourier.Document

/-- The text of a document for what reading its file gives. -/
def ofRead (id : String) : Except FileFault String → Except DocumentFault String
  | .ok text => .ok text
  | .error .notFound => .error (.notFound id)
  | .error e => .error (.unreadable id e.message)

/-- Reads a document whose id is a path from the directory `base`. -/
def read {m : Type → Type} [Monad m] (a : FileAccess m) (base id : String) :
    m (Except DocumentFault String) := do
  return ofRead id (← a.read (Path.join base id))

end PlanCourier.Document
