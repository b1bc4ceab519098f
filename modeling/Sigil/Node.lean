import Sigil.Reference.Emission
import Sigil.Reference.Evaluation

/-!
Nodes: variable references, and nodes of the host with a fixed value and a fixed piece of code.
-/

namespace Sigil

/-- A node of the host. Its code is emitted, the types it leaves are noted, and then some of them
are forgotten. A node with nothing set has no value and no code. -/
structure HostNode where
  display : String
  value : TypedValue := .null
  compilable : Bool := false
  code : List Instruction := []
  leaves : List Descriptor := []
  pops : Nat := 0

namespace HostNode

def emitInstruction (em : Emission) : Instruction → Emission
  | .cast type => em.emitCast type
  | i => em.emit i

def popTypes : Nat → Emission → Emission
  | 0, em => em
  | n + 1, em => popTypes n em.popType

def generate (h : HostNode) (em : Emission) : Except EvalError Unit × Emission :=
  (.ok (), popTypes h.pops (h.leaves.foldl Emission.pushType (h.code.foldl emitInstruction em)))

def codeSource (h : HostNode) : CodeSource where
  display := h.display
  compilable := h.compilable
  generate := h.generate

end HostNode

inductive Node where
  | reference (r : Reference)
  | host (h : HostNode)

namespace Node

variable {σ ω : Type}

def display : Node → String
  | .reference r => r.display
  | .host h => h.display

def span : Node → Span
  | .reference r => r.span
  | .host _ => .unlocated

def isWritable : Node → Bool
  | .reference r => r.isWritable
  | .host _ => false

def isCompilable : Node → Bool
  | .reference r => r.isCompilable
  | .host h => h.compilable

def exit : Node → ExitSignature
  | .reference r => r.exit
  | .host _ => none

def codeSource : Node → CodeSource
  | .reference r => r.codeSource
  | .host h => h.codeSource

def evaluate (n : Node) (ns : Namespace σ) (st : State) (s : σ) :
    Except EvalError TypedValue × σ × Node :=
  match n with
  | .reference r =>
    let e := r.evaluate ns st s
    (e.outcome, e.store, .reference e.reference)
  | .host h => (.ok h.value, s, n)

def place (n : Node) (ns : Namespace σ) (st : State) : Attempt σ Place :=
  match n with
  | .reference r => r.place ns st
  | .host h => fun s => (.ok (.context h.value), s)

def assign (n : Node) (ns : Namespace σ) (part : Part ω σ) (producer : Attempt ω TypedValue) :
    Attempt ω TypedValue :=
  match n with
  | .reference r => r.assign ns part producer
  | .host h => fun w => (.error (.notAssignable h.display), w)

end Node
end Sigil
