/-!
Static types. A descriptor names the type of what a compiled fragment leaves; `any` is the type of
everything, and a type of the host's objects may be one that compiled code must not name.
-/

namespace Sigil

inductive Visibility where
  | visible
  | restricted
  deriving DecidableEq, Repr, Inhabited

structure ObjectType where
  name : String
  visibility : Visibility := .visible
  deriving DecidableEq, Repr, Inhabited

inductive Descriptor where
  | any
  | bool
  | int
  | float
  | string
  | list
  | map
  | object (type : ObjectType)
  deriving DecidableEq, Repr, Inhabited

namespace Descriptor

def isAny : Descriptor → Bool
  | .any => true
  | _ => false

def isAccessible : Descriptor → Bool
  | .object type => type.visibility == .visible
  | _ => true

def text : Descriptor → String
  | .any => "any"
  | .bool => "bool"
  | .int => "int"
  | .float => "float"
  | .string => "string"
  | .list => "list"
  | .map => "map"
  | .object type => "object:" ++ type.name

@[simp] theorem isAny_iff {d : Descriptor} : d.isAny = true ↔ d = .any := by
  cases d <;> simp [isAny]

end Descriptor
end Sigil
