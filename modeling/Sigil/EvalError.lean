import Sigil.Config.Basic
import Sigil.Descriptor
import Sigil.Diagnostic.Basic

/-!
What can go wrong when a node is evaluated, assigned or compiled, or a program run. Each cause has a
message, a code and a phase, and becomes a diagnostic about the node it arose in.
-/

namespace Sigil

inductive EvalError where
  | unsupportedAssignment (name : String)
  | notAssignable (target : String)
  | unboundVariable (name : String)
  | readOnlyNamespace (name : String)
  | namespaceFailure (text : String)
  | notCompilable (node : String)
  | illegalAccess (typeName : String)
  | classCast (expected : Descriptor) (found : String)
  | stackImbalance (depth : Nat)
  | stackUnderflow
  | invalidSlot (slot : Slot)
  | slotConflict (slot : Slot)
  | invalidIdentifier (reason : String)
  deriving DecidableEq

namespace EvalError

def message : EvalError → String
  | .unsupportedAssignment name => "cannot assign to reserved reference `#" ++ name ++ "`"
  | .notAssignable target => target ++ " is not assignable"
  | .unboundVariable name => "variable `" ++ name ++ "` is not bound"
  | .readOnlyNamespace name => "namespace is read-only, cannot write `" ++ name ++ "`"
  | .namespaceFailure text => text
  | .notCompilable node => "`" ++ node ++ "` cannot be compiled before its exit type is known"
  | .illegalAccess typeName => "illegal access to non-public type `" ++ typeName ++ "`"
  | .classCast expected found =>
    "cannot cast value of type `" ++ found ++ "` to `" ++ expected.text ++ "`"
  | .stackImbalance depth =>
    "compiled program left " ++ toString depth ++ " values on the stack"
  | .stackUnderflow => "compiled program popped an operand of the wrong kind or from an empty stack"
  | .invalidSlot slot =>
    "local slot " ++ toString slot.toNat ++ " is not bound in the compiled frame"
  | .slotConflict slot =>
    "context and namespace handle both use local slot " ++ toString slot.toNat
  | .invalidIdentifier reason => "invalid identifier: " ++ reason

def code : EvalError → ErrorCode
  | .unsupportedAssignment _ => .unsupportedAssignment
  | .notAssignable _ => .notAssignable
  | .unboundVariable _ => .unboundVariable
  | .readOnlyNamespace _ => .readOnlyNamespace
  | .namespaceFailure _ => .namespaceFailure
  | .notCompilable _ => .notCompilable
  | .illegalAccess _ => .illegalAccess
  | .classCast _ _ => .classCast
  | .stackImbalance _ | .stackUnderflow => .stackImbalance
  | .invalidSlot _ | .slotConflict _ => .invalidSlot
  | .invalidIdentifier _ => .emptyIdentifier

def phase : EvalError → Phase
  | .invalidIdentifier _ => .reading
  | .notCompilable _ | .illegalAccess _ | .classCast _ _ | .stackImbalance _ | .stackUnderflow
  | .invalidSlot _ | .slotConflict _ => .compilation
  | _ => .evaluation

def diagnostic (e : EvalError) (span : Span) : Diagnostic :=
  ((Diagnostic.error e.phase span e.message).withCode e.code).withLabel ⟨span, e.code.description⟩

end EvalError
end Sigil
