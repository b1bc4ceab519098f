import Sigil.Reference.Name
import Sigil.Value.Basic

/-!
Variable references: a name, where it was read, and the exit signature. The signature is the type
that compiled code is promised; it is unset until an evaluation records one, and then follows the
latest recording.
-/

namespace Sigil

structure Identifier where
  name : VariableName
  span : Span
  deriving DecidableEq

namespace Identifier

def ofText (text : String) (span : Span) : Except EvalError Identifier :=
  (VariableName.ofText text).map fun name => ⟨name, span⟩

end Identifier

abbrev ExitSignature := Option Descriptor

def ExitSignature.record (_ : ExitSignature) (observed : Option Value) : ExitSignature :=
  some (exitDescriptor observed)

structure Reference where
  ident : Identifier
  exit : ExitSignature := none
  deriving DecidableEq

namespace Reference

def ofIdentifier (ident : Identifier) : Reference := ⟨ident, none⟩

def ofText (text : String) (span : Span) : Except EvalError Reference :=
  (Identifier.ofText text span).map ofIdentifier

def name (r : Reference) : VariableName := r.ident.name

def span (r : Reference) : Span := r.ident.span

def display (r : Reference) : String := r.name.display

def isWritable (r : Reference) : Bool := !r.name.isReserved

def isCompilable (r : Reference) : Bool := r.exit.isSome

def record (r : Reference) (observed : Option Value) : Reference :=
  { r with exit := ExitSignature.record r.exit observed }

@[simp] theorem record_ident (r : Reference) (v : Option Value) : (r.record v).ident = r.ident := rfl

@[simp] theorem record_exit (r : Reference) (v : Option Value) :
    (r.record v).exit = some (exitDescriptor v) := rfl

end Reference
end Sigil
