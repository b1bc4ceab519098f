import Sigil.Binary64.Basic
import Sigil.Dictionary

/-!
Trees of JSON data. An object is a list of members in increasing order of their names, as reading
builds it; a number is an integer when its text is one and it fits 64 bits, and otherwise the
floating point number it was read as.
-/

namespace Sigil

inductive JsonNumber where
  | int (n : Int)
  | float (x : Binary64)
  deriving DecidableEq

inductive Json where
  | null
  | bool (b : Bool)
  | number (n : JsonNumber)
  | string (s : String)
  | array (items : List Json)
  | object (members : List (String × Json))

namespace Json

instance : Inhabited Json := ⟨.null⟩

def members? : Json → Option (List (String × Json))
  | .object members => some members
  | _ => none

mutual

def Ordered : Json → Prop
  | .array items => OrderedItems items
  | .object members => SortedByName members ∧ OrderedMembers members
  | _ => True

def OrderedItems : List Json → Prop
  | [] => True
  | j :: js => Ordered j ∧ OrderedItems js

def OrderedMembers : List (String × Json) → Prop
  | [] => True
  | (_, j) :: rest => Ordered j ∧ OrderedMembers rest

end

end Json
end Sigil
