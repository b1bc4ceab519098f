import Sigil.Json.Cursor

/-!
Reading a JSON text: one value with blanks around it, of at most 127 nested arrays and objects. Of
several members of one name the last stands.
-/

namespace Sigil.Json

def maxNesting : Nat := 127

def readColon (c : Cursor) : Except (Refusal Fault) Cursor :=
  let c := c.skipBlanks
  match c.rest with
  | [] => c.refuse (.unfinished .object)
  | ':' :: _ => .ok c.next
  | _ => c.refuseNext .expectedColon

def nextItem (first : Bool) (c : Cursor) : Except (Refusal Fault) (Option Cursor) :=
  let c := c.skipBlanks
  match c.rest with
  | [] => c.refuse (.unfinished .list)
  | ']' :: _ => .ok none
  | x :: _ =>
    if first then .ok (some c)
    else if x = ',' then
      let c := c.next.skipBlanks
      match c.rest with
      | [] => c.refuse (.unfinished .value)
      | ']' :: _ => c.refuseNext .trailingComma
      | _ => .ok (some c)
    else c.refuseNext .expectedListSeparator

def nextMember (first : Bool) (c : Cursor) : Except (Refusal Fault) (Option Cursor) :=
  let c := c.skipBlanks
  match c.rest with
  | [] => c.refuse (.unfinished .object)
  | '\x7d' :: _ => .ok none
  | x :: _ =>
    if first then if x = '"' then .ok (some c) else c.refuseNext .keyMustBeString
    else if x = ',' then
      let c := c.next.skipBlanks
      match c.rest with
      | [] => c.refuse (.unfinished .value)
      | '"' :: _ => .ok (some c)
      | '\x7d' :: _ => c.refuseNext .trailingComma
      | _ => c.refuseNext .keyMustBeString
    else c.refuseNext .expectedObjectSeparator

mutual

def readValue : Nat → Nat → Cursor → Except (Refusal Fault) (Json × Cursor)
  -- the first number bounds the steps, the second the arrays and objects that may still be opened
  | 0, _, c => c.refuse (.unfinished .value)
  | bound + 1, depth, c =>
    let c := c.skipBlanks
    match c.rest with
    | [] => c.refuse (.unfinished .value)
    | x :: _ =>
      if x = 'n' then c.next.readName ['u', 'l', 'l'] .null
      else if x = 't' then c.next.readName ['r', 'u', 'e'] (.bool true)
      else if x = 'f' then c.next.readName ['a', 'l', 's', 'e'] (.bool false)
      else if x = '-' then (readNumber true c.next).map fun p => (.number p.1, p.2)
      else if x.isDigit then (readNumber false c).map fun p => (.number p.1, p.2)
      else if x = '"' then (readString c.next).map fun p => (.string p.1, p.2)
      else if x = '[' then
        match depth with
        | 0 => c.refuseNext .tooDeep
        | depth + 1 => readItems bound depth true [] c.next
      else if x = '\x7b' then
        match depth with
        | 0 => c.refuseNext .tooDeep
        | depth + 1 => readMembers bound depth true [] c.next
      else c.refuseNext .expectedValue

def readItems : Nat → Nat → Bool → List Json → Cursor → Except (Refusal Fault) (Json × Cursor)
  | 0, _, _, _, c => c.refuse (.unfinished .list)
  | bound + 1, depth, first, before, c =>
    match nextItem first c with
    | .error r => .error r
    | .ok none => .ok (.array before.reverse, c.skipBlanks.next)
    | .ok (some c) =>
      match readValue bound depth c with
      | .error r => .error r
      | .ok (item, c) => readItems bound depth false (item :: before) c

def readMembers : Nat → Nat → Bool → List (String × Json) → Cursor →
    Except (Refusal Fault) (Json × Cursor)
  | 0, _, _, _, c => c.refuse (.unfinished .object)
  | bound + 1, depth, first, before, c =>
    match nextMember first c with
    | .error r => .error r
    | .ok none => .ok (.object before, c.skipBlanks.next)
    | .ok (some c) =>
      match readString c.next with
      | .error r => .error r
      | .ok (name, c) =>
        match readColon c with
        | .error r => .error r
        | .ok c =>
          match readValue bound depth c with
          | .error r => .error r
          | .ok (value, c) => readMembers bound depth false (Entries.insert name value before) c

end

def readEnd {α : Type} (value : α) (c : Cursor) : Except (Refusal Fault) α :=
  let c := c.skipBlanks
  if c.rest.isEmpty then .ok value else c.refuseNext .trailingCharacters

/-- The value of a JSON text. A step and the value inside it take at least one character together, so
twice the length of the text bounds the steps. -/
def read (text : String) : Except (Refusal Fault) Json :=
  match readValue (2 * text.length + 2) maxNesting (.start text) with
  | .error r => .error r
  | .ok (value, c) => readEnd value c

def parse (text : String) : Except String Json :=
  (read text).mapError (Refusal.message Fault.text text)

end Sigil.Json
