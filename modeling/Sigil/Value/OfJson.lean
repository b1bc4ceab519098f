import Sigil.Value.Basic
import Sigil.Json.Basic

/-!
Values from JSON trees. The null tree is no value, and no collection may hold it. An integer of 64
bits stays one, every other number is a floating point number.
-/

namespace Sigil

namespace JsonNumber

def fitsInt64 (n : Int) : Bool := decide (Int64.minValue.toInt ≤ n) && decide (n ≤ Int64.maxValue.toInt)

def toValue : JsonNumber → Value
  | .int n => if fitsInt64 n then .int (Int64.ofInt n) else .float (Binary64.ofInt n)
  | .float x => .float x

end JsonNumber

namespace Value

mutual

def ofTree? : Json → Option Value
  | .null => none
  | .bool b => some (.bool b)
  | .number n => some n.toValue
  | .string s => some (.string s)
  | .array items => (ofItems? items).map .list
  | .object members => (ofMembers? members).map .map

def ofItems? : List Json → Option (List Value)
  | [] => some []
  | j :: js =>
    match ofTree? j, ofItems? js with
    | some v, some vs => some (v :: vs)
    | _, _ => none

def ofMembers? : List (String × Json) → Option (List (String × Value))
  | [] => some []
  | (name, j) :: rest =>
    match ofTree? j, ofMembers? rest with
    | some v, some vs => some ((name, v) :: vs)
    | _, _ => none

end

inductive OfJsonError where
  | nullInCollection
  deriving DecidableEq, Repr

def OfJsonError.message : OfJsonError → String
  | .nullInCollection => "null is not allowed inside a collection"

/-- The value of a JSON tree: none for null, and refused for a null inside a collection. -/
def ofJson : Json → Except OfJsonError (Option Value)
  | .null => .ok none
  | j =>
    match ofTree? j with
    | some v => .ok (some v)
    | none => .error .nullInCollection

end Value
end Sigil
