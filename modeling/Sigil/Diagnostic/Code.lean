/-!
The codes of diagnostics, in three groups: the text of a reference, evaluation, and compiled code.
Each has a description, and some a suggestion of what to do.
-/

namespace Sigil

inductive ErrorCode where
  | unexpectedCharacter
  | missingReferenceMarker
  | emptyIdentifier
  | trailingInput
  | unsupportedAssignment
  | notAssignable
  | unboundVariable
  | readOnlyNamespace
  | namespaceFailure
  | notCompilable
  | illegalAccess
  | classCast
  | stackImbalance
  | invalidSlot
  deriving DecidableEq, Repr

namespace ErrorCode

def text : ErrorCode → String
  | .unexpectedCharacter => "E0001"
  | .missingReferenceMarker => "E0002"
  | .emptyIdentifier => "E0003"
  | .trailingInput => "E0004"
  | .unsupportedAssignment => "E0300"
  | .notAssignable => "E0301"
  | .unboundVariable => "E0302"
  | .readOnlyNamespace => "E0303"
  | .namespaceFailure => "E0304"
  | .notCompilable => "E0400"
  | .illegalAccess => "E0401"
  | .classCast => "E0402"
  | .stackImbalance => "E0403"
  | .invalidSlot => "E0404"

def description : ErrorCode → String
  | .unexpectedCharacter => "unexpected character in variable reference"
  | .missingReferenceMarker => "variable reference must start with `#`"
  | .emptyIdentifier => "variable reference has no name"
  | .trailingInput => "unexpected input after variable reference"
  | .unsupportedAssignment => "cannot assign to a reserved context reference"
  | .notAssignable => "reference is not assignable"
  | .unboundVariable => "variable is not bound in the namespace"
  | .readOnlyNamespace => "namespace does not accept writes"
  | .namespaceFailure => "namespace operation failed"
  | .notCompilable => "expression has no exit signature yet"
  | .illegalAccess => "compiled code referenced a non-public type"
  | .classCast => "value does not match the compiled exit type"
  | .stackImbalance => "compiled program left the stack unbalanced"
  | .invalidSlot => "compiled program loaded an unknown local slot"

def suggestion? : ErrorCode → Option String
  | .missingReferenceMarker => some "write the reference as `#name`"
  | .unsupportedAssignment =>
    some "`#this` and `#root` are read-only; assign to a named variable instead"
  | .unboundVariable =>
    some "define the variable first, or evaluate with the lenient unbound policy"
  | .notCompilable =>
    some "evaluate the expression in interpreted mode at least once before compiling"
  | .classCast => some "the binding changed type since compilation; discard the compiled unit"
  | _ => none

end ErrorCode
end Sigil
