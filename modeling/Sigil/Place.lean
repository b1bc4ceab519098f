import Sigil.Namespace.Basic
import Sigil.Value.Text

/-!
Places: what stood where a node refers to at the moment it was taken, and where writing goes. The
place of a named variable writes to the namespace; the place of a context object cannot be written.
A place never reads again.
-/

namespace Sigil

inductive Place where
  | context (snapshot : TypedValue)
  | variable (name : String) (snapshot : TypedValue)

namespace Place

def read : Place → TypedValue
  | .context snapshot => snapshot
  | .variable _ snapshot => snapshot

def isWritable : Place → Bool
  | .context _ => false
  | .variable _ _ => true

def write {σ : Type} (ns : Namespace σ) (p : Place) (v : Option Value) : Attempt σ Unit :=
  match p with
  | .context snapshot => fun s => (.error (.notAssignable ("context object " ++ snapshot.text)), s)
  | .variable name _ => ns.set name v

end Place

/-! A place is shown with all that it holds, the records by field name. -/

def Visibility.shown : Visibility → String
  | .visible => "Public"
  | .restricted => "Restricted"

def Descriptor.shown : Descriptor → String
  | .any => "Any"
  | .bool => "Bool"
  | .int => "Int"
  | .float => "Float"
  | .string => "String"
  | .list => "List"
  | .map => "Map"
  | .object type =>
    "Object(ObjectType \x7b name: " ++ Text.quote type.name ++ ", visibility: " ++
      type.visibility.shown ++ " \x7d)"

def shownOption {α : Type} (write : α → String) : Option α → String
  | none => "None"
  | some x => "Some(" ++ write x ++ ")"

def TypedValue.shown (t : TypedValue) : String :=
  "TypedValue \x7b value: " ++ shownOption Value.text t.value ++ ", declared: " ++
    shownOption Descriptor.shown t.declared ++ " \x7d"

def Place.shown : Place → String
  | .context snapshot => "Context(" ++ snapshot.shown ++ ")"
  | .variable name snapshot =>
    "Variable \x7b name: " ++ Text.quote name ++ ", value: " ++ snapshot.shown ++ ", .. \x7d"

end Sigil
