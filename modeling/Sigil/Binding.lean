import Sigil.Dictionary
import Sigil.Json.Reader
import Sigil.Value.OfJson

/-!
Bindings from JSON. An object with a member `$type` stands for an object of the host: the member
names its type, `$public` set to false restricts it, and all other members belong to the object as
they are. Only a whole binding can be a host object; inside a value `$type` is a key like any other.
-/

namespace Sigil

inductive BindingError where
  | typeNotString
  | value (e : Value.OfJsonError)
  deriving DecidableEq, Repr

def BindingError.message : BindingError → String
  | .typeNotString => "`$type` must be a string"
  | .value e => e.message

namespace Binding

def typeKey : String := "$type"

def publicKey : String := "$public"

def visibility (members : List (String × Json)) : Visibility :=
  match Entries.find? publicKey members with
  | some (.bool false) => .restricted
  | _ => .visible

def hostObject (serial : Nat) (typeName : String) (members : List (String × Json)) : HostObject where
  serial := serial
  type := ⟨typeName, visibility members⟩
  members := some (Entries.erase publicKey (Entries.erase typeKey members))

def ofPlain (j : Json) : Except BindingError TypedValue :=
  match Value.ofJson j with
  | .ok v => .ok (.ofOption v)
  | .error e => .error (.value e)

def ofJson (serial : Nat) (j : Json) : Except BindingError TypedValue :=
  match j with
  | .object members =>
    match Entries.find? typeKey members with
    | some (.string typeName) => .ok (.ofValue (.object (hostObject serial typeName members)))
    | some _ => .error .typeNotString
    | none => ofPlain j
  | _ => ofPlain j

def parse (serial : Nat) (text : String) : Except String TypedValue :=
  match Json.parse text with
  | .error message => .error message
  | .ok j => (ofJson serial j).mapError BindingError.message

end Binding

inductive BindingsError where
  | notObject
  | binding (name : String) (e : BindingError)
  deriving DecidableEq, Repr

def BindingsError.message : BindingsError → String
  | .notObject => "bindings must be a JSON object"
  | .binding name e => "`" ++ name ++ "`: " ++ e.message

namespace Bindings

def ofMembers (serial : Nat) :
    List (String × Json) → Except BindingsError (List (String × TypedValue))
  | [] => .ok []
  | (name, j) :: rest =>
    match Binding.ofJson serial j with
    | .error e => .error (.binding name e)
    | .ok t => (ofMembers (serial + 1) rest).map fun bindings => (name, t) :: bindings

/-- The bindings of a JSON object, all or none. Its members are in the order of their names, so a
failure names the least name that fails. -/
def ofJson (serial : Nat) : Json → Except BindingsError (Dictionary TypedValue)
  | .object members => (ofMembers serial members).map .ofList
  | _ => .error .notObject

def parse (serial : Nat) (text : String) : Except String (Dictionary TypedValue) :=
  match Json.parse text with
  | .error message => .error message
  | .ok j => (ofJson serial j).mapError BindingsError.message

end Bindings
end Sigil
