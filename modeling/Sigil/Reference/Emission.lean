import Sigil.Program.Emission
import Sigil.Reference.Basic

/-!
The code of a reference: load the context object, or look a name up in the namespace, and cast to
the exit signature. Without a signature nothing is emitted.
-/

namespace Sigil.Reference

def emitName (em : Emission) : VariableName → Emission
  | .named text _ => ((em.emit (.load em.namespaceSlot)).emit (.push text)).emit .lookup
  | _ => em.emit (.load em.contextSlot)

def generate (r : Reference) (em : Emission) : Except EvalError Unit × Emission :=
  match r.exit with
  | none => (.error (.notCompilable r.display), em)
  | some exit => (.ok (), ((emitName em r.name).emitCast exit).pushType exit)

def codeSource (r : Reference) : CodeSource where
  display := r.display
  compilable := r.isCompilable
  generate := r.generate

end Sigil.Reference
