import Sigil.Descriptor
import Sigil.Json.Basic

/-!
Values. There is no null value: absence is a typed value that holds none. The engine looks at a host
object's type only; two mentions of host objects are equal when they are of one object.
-/

namespace Sigil

/-- An object that belongs to the host. The serial tells the objects of a type apart. Objects made
from data carry the members they were made from. -/
structure HostObject where
  serial : Nat
  type : ObjectType
  members : Option (List (String × Json)) := none

def HostObject.identity (o : HostObject) : Nat × ObjectType := (o.serial, o.type)

inductive Value where
  | bool (b : Bool)
  | int (n : Int64)
  | float (x : Binary64)
  | string (s : String)
  | list (items : List Value)
  | map (entries : List (String × Value))
  | object (o : HostObject)

namespace Value

instance : Inhabited Value := ⟨.bool false⟩

mutual

/-- Equality of values. Floating point numbers are equal as numbers, and host objects when they are
the same object. -/
protected def beq : Value → Value → Bool
  | .bool a, .bool b => a == b
  | .int a, .int b => a == b
  | .float a, .float b => a.beq b
  | .string a, .string b => a == b
  | .list as, .list bs => Value.beqItems as bs
  | .map as, .map bs => Value.beqEntries as bs
  | .object a, .object b => a.identity == b.identity
  | _, _ => false

protected def beqItems : List Value → List Value → Bool
  | [], [] => true
  | a :: as, b :: bs => Value.beq a b && Value.beqItems as bs
  | _, _ => false

protected def beqEntries : List (String × Value) → List (String × Value) → Bool
  | [], [] => true
  | (k, a) :: as, (l, b) :: bs => k == l && Value.beq a b && Value.beqEntries as bs
  | _, _ => false

end

mutual

def Ordered : Value → Prop
  | .list items => OrderedItems items
  | .map entries => SortedByName entries ∧ OrderedEntries entries
  | _ => True

def OrderedItems : List Value → Prop
  | [] => True
  | v :: vs => Ordered v ∧ OrderedItems vs

def OrderedEntries : List (String × Value) → Prop
  | [] => True
  | (_, v) :: rest => Ordered v ∧ OrderedEntries rest

end

def runtimeType : Value → ObjectType
  | .bool _ => ⟨"bool", .visible⟩
  | .int _ => ⟨"int", .visible⟩
  | .float _ => ⟨"float", .visible⟩
  | .string _ => ⟨"string", .visible⟩
  | .list _ => ⟨"list", .visible⟩
  | .map _ => ⟨"map", .visible⟩
  | .object o => o.type

def isPublic (v : Value) : Bool := v.runtimeType.visibility == .visible

def descriptor : Value → Descriptor
  | .bool _ => .bool
  | .int _ => .int
  | .float _ => .float
  | .string _ => .string
  | .list _ => .list
  | .map _ => .map
  | .object o => .object o.type

def string? : Value → Option String
  | .string s => some s
  | _ => none

def int? : Value → Option Int64
  | .int n => some n
  | _ => none

end Value

/-- Whether a value passes a cast to a type. A cast to a type of host objects goes by its name. -/
def Descriptor.accepts : Descriptor → Value → Bool
  | .any, _ => true
  | .bool, .bool _ => true
  | .int, .int _ => true
  | .float, .float _ => true
  | .string, .string _ => true
  | .list, .list _ => true
  | .map, .map _ => true
  | .object type, .object o => type.name == o.type.name
  | _, _ => false

/-- The type that compiled code is promised for an observed value: its own type when compiled code
may name it, and `any` for every other value and for none. -/
def exitDescriptor : Option Value → Descriptor
  | some v => if v.isPublic then v.descriptor else .any
  | none => .any

structure TypedValue where
  value : Option Value
  declared : Option Descriptor

namespace TypedValue

def null : TypedValue := ⟨none, none⟩

instance : Inhabited TypedValue := ⟨null⟩

def ofValue (v : Value) : TypedValue := ⟨some v, some v.descriptor⟩

def declaring (v : Option Value) (d : Descriptor) : TypedValue := ⟨v, some d⟩

def ofOption : Option Value → TypedValue
  | some v => ofValue v
  | none => null

theorem ofOption_eq (v : Option Value) : ofOption v = ⟨v, v.map Value.descriptor⟩ := by
  cases v <;> rfl

def isNull (t : TypedValue) : Bool := t.value.isNone

protected def beq (s t : TypedValue) : Bool :=
  (match s.value, t.value with
    | some v, some w => v.beq w
    | none, none => true
    | _, _ => false) && s.declared == t.declared

end TypedValue

theorem Descriptor.accepts_descriptor (v : Value) : v.descriptor.accepts v = true := by
  cases v <;> simp [Value.descriptor, accepts]

theorem accepts_exitDescriptor (v : Value) : (exitDescriptor (some v)).accepts v = true := by
  simp only [exitDescriptor]
  split
  · exact Descriptor.accepts_descriptor v
  · simp [Descriptor.accepts]

theorem isAccessible_exitDescriptor (v : Option Value) : (exitDescriptor v).isAccessible = true := by
  cases v with
  | none => rfl
  | some v =>
    simp only [exitDescriptor]
    split
    · next h => cases v <;> simp_all [Value.descriptor, Descriptor.isAccessible, Value.isPublic,
        Value.runtimeType]
    · rfl

end Sigil
