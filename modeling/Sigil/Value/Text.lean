import Sigil.Value.Basic
import Sigil.Binary64.Text
import Sigil.Text.Quoted

/-!
The text of a value. Strings stand between quotes as they are; the keys of maps are quoted with
escapes; a host object shows the name of its type between angle brackets.
-/

namespace Sigil

namespace Value

mutual

def text : Value → String
  | .bool b => if b then "true" else "false"
  | .int n => toString n.toInt
  | .float x => x.text
  | .string s => "\"" ++ s ++ "\""
  | .list items => "[" ++ ", ".intercalate (itemTexts items) ++ "]"
  | .map entries => "\x7b" ++ ", ".intercalate (entryTexts entries) ++ "\x7d"
  | .object o => "<" ++ o.type.name ++ ">"

def itemTexts : List Value → List String
  | [] => []
  | v :: vs => text v :: itemTexts vs

def entryTexts : List (String × Value) → List String
  | [] => []
  | (key, v) :: rest => (Text.quote key ++ ": " ++ text v) :: entryTexts rest

end

end Value

def TypedValue.text (t : TypedValue) : String :=
  match t.value with
  | some v => v.text
  | none => "null"

end Sigil
