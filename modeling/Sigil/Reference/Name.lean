import Sigil.EvalError

/-!
The names of variables. `this` and `root` are reserved: they always mean the context objects and are
never looked up.
-/

namespace Sigil

def IsFreeName (text : String) : Prop := text ≠ "" ∧ text ≠ "this" ∧ text ≠ "root"

instance (text : String) : Decidable (IsFreeName text) :=
  inferInstanceAs (Decidable (text ≠ "" ∧ text ≠ "this" ∧ text ≠ "root"))

inductive VariableName where
  | this
  | root
  | named (text : String) (free : IsFreeName text)
  deriving DecidableEq

namespace VariableName

def text : VariableName → String
  | .this => "this"
  | .root => "root"
  | .named text _ => text

def isReserved : VariableName → Bool
  | .named _ _ => false
  | _ => true

def ofText (text : String) : Except EvalError VariableName :=
  if empty : text = "" then .error (.invalidIdentifier "variable name is empty")
  else if isThis : text = "this" then .ok .this
  else if isRoot : text = "root" then .ok .root
  else .ok (.named text ⟨empty, isThis, isRoot⟩)

def display (name : VariableName) : String := "#" ++ name.text

@[simp] theorem ofText_text (name : VariableName) : ofText name.text = .ok name := by
  cases name with
  | this => rfl
  | root => rfl
  | named text free => simp [ofText, VariableName.text, free.1, free.2.1, free.2.2]

theorem text_of_ofText {text : String} {name : VariableName} (h : ofText text = .ok name) :
    name.text = text := by
  unfold ofText at h
  split at h
  · simp at h
  · split at h
    · cases h; exact Eq.symm ‹_›
    · split at h <;> cases h
      · exact Eq.symm ‹_›
      · rfl

theorem ofText_eq_error {text : String} {e : EvalError} :
    ofText text = .error e ↔ text = "" ∧ e = .invalidIdentifier "variable name is empty" := by
  unfold ofText
  split
  · simp [*, eq_comm]
  · split
    · simp [*]
    · split <;> simp [*]

end VariableName
end Sigil
