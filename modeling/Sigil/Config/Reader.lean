import Sigil.Config.Basic
import Sigil.Json.Reader
import Sigil.Json.Writer
import Sigil.Text.Quoted

/-!
Reading settings from JSON text: an object of the three fields in any order, each at most once and
none required, or an array of the three values in order. Reading is strict, and the first fault in
the order of the text is reported; slots that clash are reported when nothing else is wrong.
-/

namespace Sigil.Config

open Json (Cursor Refusal Fault)

inductive Found where
  | null
  | bool (b : Bool)
  | number (n : JsonNumber)
  | string (s : String)
  | sequence
  | map
  deriving DecidableEq

inductive Wanted where
  | slot
  | settings
  | nothing
  deriving DecidableEq

inductive Field where
  | unbound
  | contextSlot
  | namespaceSlot
  deriving DecidableEq

inductive TextFault where
  | json (fault : Fault)
  | unknownField (name : String)
  | duplicateField (field : Field)
  | unknownPolicy (name : String)
  | slotOutOfRange (n : Int)
  | wrongType (found : Found) (wanted : Wanted)
  deriving DecidableEq

def Found.text : Found → String
  | .null => "null"
  | .bool b => "boolean `" ++ (if b then "true" else "false") ++ "`"
  | .number (.int n) => "integer `" ++ toString n ++ "`"
  | .number (.float x) => "floating point `" ++ x.dataText ++ "`"
  | .string s => "string " ++ Text.quote s
  | .sequence => "sequence"
  | .map => "map"

def Wanted.text : Wanted → String
  | .slot => "u16"
  | .settings => "struct EngineConfig"
  | .nothing => "unit"

def Field.name : Field → String
  | .unbound => "unbound"
  | .contextSlot => "context-slot"
  | .namespaceSlot => "namespace-slot"

def Field.ofName? (s : String) : Option Field :=
  [Field.unbound, .contextSlot, .namespaceSlot].find? fun f => f.name = s

def TextFault.text : TextFault → String
  | .json fault => fault.text
  | .unknownField name =>
    "unknown field `" ++ name ++ "`, expected one of `unbound`, `context-slot`, `namespace-slot`"
  | .duplicateField field => "duplicate field `" ++ field.name ++ "`"
  | .unknownPolicy name => "unknown variant `" ++ name ++ "`, expected `lenient` or `strict`"
  | .slotOutOfRange n => "invalid value: integer `" ++ toString n ++ "`, expected u16"
  | .wrongType found wanted => "invalid type: " ++ found.text ++ ", expected " ++ wanted.text

abbrev Reading (α : Type) := Except (Refusal TextFault) α

def json {α : Type} (r : Except (Refusal Fault) α) : Reading α :=
  r.mapError fun r => ⟨.json r.fault, r.bytes⟩

def refuse {α : Type} (c : Cursor) (fault : TextFault) : Reading α := .error ⟨fault, c.bytes⟩

def refuseType {α : Type} (wanted : Wanted) (c : Cursor) : Reading α :=
  match c.rest with
  | [] => json (c.refuse (.unfinished .value))
  | x :: _ =>
    if x = 'n' then scalar (c.next.readName ['u', 'l', 'l'] .null)
    else if x = 't' then scalar (c.next.readName ['r', 'u', 'e'] (.bool true))
    else if x = 'f' then scalar (c.next.readName ['a', 'l', 's', 'e'] (.bool false))
    else if x = '-' then scalar ((Json.readNumber true c.next).map fun p => (.number p.1, p.2))
    else if x.isDigit then scalar ((Json.readNumber false c).map fun p => (.number p.1, p.2))
    else if x = '"' then scalar ((Json.readString c.next).map fun p => (.string p.1, p.2))
    else if x = '[' then refuse c (.wrongType .sequence wanted)
    else if x = '\x7b' then refuse c (.wrongType .map wanted)
    else json (c.refuseNext .expectedValue)
where
  scalar (r : Except (Refusal Fault) (Found × Cursor)) : Reading α :=
    match json r with
    | .error r => .error r
    | .ok (found, c) => refuse c (.wrongType found wanted)

def readSlot (c : Cursor) : Reading (Slot × Cursor) :=
  let c := c.skipBlanks
  match c.rest with
  | [] => json (c.refuse (.unfinished .value))
  | x :: _ =>
    if x = '-' then number (Json.readNumber true c.next)
    else if x.isDigit then number (Json.readNumber false c)
    else refuseType .slot c
where
  number (r : Except (Refusal Fault) (JsonNumber × Cursor)) : Reading (Slot × Cursor) :=
    match json r with
    | .error r => .error r
    | .ok (.int n, c) =>
      if 0 ≤ n ∧ n < UInt16.size then .ok (UInt16.ofNat n.toNat, c) else refuse c (.slotOutOfRange n)
    | .ok (.float x, c) => refuse c (.wrongType (.number (.float x)) .slot)

def readPolicyName (c : Cursor) : Reading (UnboundPolicy × Cursor) :=
  match json (Json.readString c) with
  | .error r => .error r
  | .ok (name, c) =>
    match UnboundPolicy.ofName? name with
    | some policy => .ok (policy, c)
    | none => refuse c (.unknownPolicy name)

def readNothing (c : Cursor) : Reading Cursor :=
  let c := c.skipBlanks
  match c.rest with
  | [] => json (c.refuse (.unfinished .value))
  | 'n' :: _ => (json (c.next.readName ['u', 'l', 'l'] ())).map (·.2)
  | _ => refuseType .nothing c

/-- Reads the rest of an object that holds the name of a policy and null, after its brace. What stands
there in place of the closing brace is not consumed. -/
def readPolicyObject (c : Cursor) : Reading (UnboundPolicy × Cursor) :=
  match json (Json.nextMember true c) with
  | .error r => .error r
  | .ok none => json (c.skipBlanks.refuseNext .expectedValue)
  | .ok (some c) =>
    match readPolicyName c.next with
    | .error r => .error r
    | .ok (policy, c) =>
      match json (Json.readColon c) with
      | .error r => .error r
      | .ok c =>
        match readNothing c with
        | .error r => .error r
        | .ok c =>
          let c := c.skipBlanks
          match c.rest with
          | [] => json (c.refuse (.unfinished .object))
          | '\x7d' :: _ => .ok (policy, c.next)
          | _ => json (c.refuse .expectedValue)

def readPolicy (c : Cursor) : Reading (UnboundPolicy × Cursor) :=
  let c := c.skipBlanks
  match c.rest with
  | [] => json (c.refuse (.unfinished .value))
  | '"' :: _ => readPolicyName c.next
  | '\x7b' :: _ => readPolicyObject c.next
  | _ => json (c.refuseNext .expectedValue)

structure Fields where
  unbound : Option UnboundPolicy := none
  contextSlot : Option Slot := none
  namespaceSlot : Option Slot := none

def Fields.settings (f : Fields) : Config where
  unbound := f.unbound.getD .lenient
  contextSlot := f.contextSlot.getD 1
  namespaceSlot := f.namespaceSlot.getD 2

def Fields.has (f : Fields) : Field → Bool
  | .unbound => f.unbound.isSome
  | .contextSlot => f.contextSlot.isSome
  | .namespaceSlot => f.namespaceSlot.isSome

def readField (f : Fields) (field : Field) (c : Cursor) : Reading (Fields × Cursor) :=
  match field with
  | .unbound => (readPolicy c).map fun p => ({ f with unbound := some p.1 }, p.2)
  | .contextSlot => (readSlot c).map fun p => ({ f with contextSlot := some p.1 }, p.2)
  | .namespaceSlot => (readSlot c).map fun p => ({ f with namespaceSlot := some p.1 }, p.2)

def refuseField {α : Type} (c : Cursor) (fault : TextFault) : Reading α :=
  let c := c.skipBlanks
  match c.rest with
  | '\x7d' :: _ => refuse c.next fault
  | _ => refuse c fault

/-- Reads fields up to the closing brace. Each step reads one more of the three fields or refuses, so
a bound of four steps is never reached. -/
def readFields : Nat → Bool → Fields → Cursor → Reading (Fields × Cursor)
  | 0, _, _, c => json (c.refuse (.unfinished .object))
  | bound + 1, first, f, c =>
    match json (Json.nextMember first c) with
    | .error r => .error r
    | .ok none => .ok (f, c.skipBlanks.next)
    | .ok (some c) =>
      match json (Json.readString c.next) with
      | .error r => .error r
      | .ok (name, c) =>
        match Field.ofName? name with
        | none => refuseField c (.unknownField name)
        | some field =>
          if f.has field then refuseField c (.duplicateField field)
          else
            match json (Json.readColon c) with
            | .error r => .error r
            | .ok c =>
              match readField f field c with
              | .error r => .error r
              | .ok (f, c) => readFields bound false f c

def readClosing (c : Cursor) : Reading Cursor :=
  let c := c.skipBlanks
  match c.rest with
  | [] => json (c.refuse (.unfinished .list))
  | ']' :: _ => .ok c.next
  | ',' :: _ =>
    let c := c.next.skipBlanks
    match c.rest with
    | ']' :: _ => json (c.refuseNext .trailingComma)
    | _ => json (c.refuseNext .trailingCharacters)
  | _ => json (c.refuseNext .trailingCharacters)

def readValues : List Field → Bool → Fields → Cursor → Reading (Fields × Cursor)
  | [], _, f, c => (readClosing c).map fun c => (f, c)
  | field :: fields, first, f, c =>
    match json (Json.nextItem first c) with
    | .error r => .error r
    | .ok none => .ok (f, c.skipBlanks.next)
    | .ok (some c) =>
      match readField f field c with
      | .error r => .error r
      | .ok (f, c) => readValues fields false f c

def readSettings (c : Cursor) : Reading (Fields × Cursor) :=
  let c := c.skipBlanks
  match c.rest with
  | [] => json (c.refuse (.unfinished .value))
  | '\x7b' :: _ => readFields 4 true {} c.next
  | '[' :: _ => readValues [.unbound, .contextSlot, .namespaceSlot] true {} c.next
  | _ => refuseType .settings c

def readText (text : String) : Reading Config :=
  match readSettings (.start text) with
  | .error r => .error r
  | .ok (f, c) => json (Json.readEnd f.settings c)

inductive Error where
  | text (fault : TextFault) (position : Json.Position)
  | slotConflict (slot : Slot)
  deriving DecidableEq

def Error.message : Error → String
  | .text fault position => "invalid engine config: " ++ fault.text ++ " at " ++ position.text
  | .slotConflict slot => "context and namespace both use local slot " ++ toString slot.toNat

def parse (text : String) : Except Error Config :=
  match readText text with
  | .error r => .error (.text r.fault (.after r.bytes text))
  | .ok config => config.validate.mapError .slotConflict

end Sigil.Config
