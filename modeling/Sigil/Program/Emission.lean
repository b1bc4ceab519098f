import Sigil.EvalError
import Sigil.Text.Quoted

/-!
Compiled code as it is emitted: the instructions so far, the slots the unit uses, and the static
types of the values that the fragments emitted so far leave, the topmost first.
-/

namespace Sigil

inductive Instruction where
  | load (slot : Slot)
  | push (text : String)
  | lookup
  | cast (type : Descriptor)
  deriving DecidableEq

namespace Instruction

def text : Instruction → String
  | .load slot => "load_local " ++ toString slot.toNat
  | .push text => "push_string " ++ Text.quote text
  | .lookup => "lookup_variable"
  | .cast type => "check_cast " ++ type.text

end Instruction

structure Emission where
  code : List Instruction
  contextSlot : Slot
  namespaceSlot : Slot
  leaves : List Descriptor  -- the topmost first

namespace Emission

def start (config : Config) : Emission := ⟨[], config.contextSlot, config.namespaceSlot, []⟩

def emit (em : Emission) (i : Instruction) : Emission := { em with code := em.code ++ [i] }

def emitCast (em : Emission) (type : Descriptor) : Emission :=
  -- the cast to `any` passes everything
  if type.isAny then em else em.emit (.cast type)

def pushType (em : Emission) (type : Descriptor) : Emission :=
  { em with leaves := type :: em.leaves }

def popType (em : Emission) : Emission := { em with leaves := em.leaves.tail }

def lastType (em : Emission) : Option Descriptor := em.leaves.head?

def depth (em : Emission) : Nat := em.leaves.length

end Emission

/-- What code can be emitted from: how it is displayed, the text of its syntax tree, which is the display
unless it has a text of its own, whether emitting may be tried, and what it emits. A failure may leave
something emitted. -/
structure CodeSource where
  display : String
  ast : String := display
  compilable : Bool
  generate : Emission → Except EvalError Unit × Emission

end Sigil
