import Sigil.Dictionary
import Sigil.Node
import Sigil.Program.Run

/-!
Sessions: one namespace, one state, and the nodes, places and programs made so far, by name. A
session is the world in which the right sides of assignments run, so an assignment may evaluate
nodes and make assignments of its own.
-/

namespace Sigil

structure Session (σ : Type) where
  store : σ
  state : State
  nodes : Dictionary Node := .empty
  places : Dictionary Place := .empty
  programs : Dictionary Program := .empty
  produced : Nat := 0
  requested : Nat := 0

inductive Producer where
  | value (t : TypedValue)
  | fail (e : EvalError)
  | evaluate (node : String)
  | assign (node : String) (right : Producer)

namespace Session

variable {σ : Type}

def storePart : Part (Session σ) σ := ⟨Session.store, fun s w => { w with store := s }⟩

def unknownNode (id : String) : EvalError := .invalidIdentifier ("no node " ++ id)

def evaluate (ns : Namespace σ) (id : String) : Attempt (Session σ) TypedValue := fun w =>
  match w.nodes.find? id with
  | none => (.error (unknownNode id), w)
  | some n =>
    let (r, s, n) := n.evaluate ns w.state w.store
    (r, { w with store := s, nodes := w.nodes.insert id n })

def assign (ns : Namespace σ) (id : String) (right : Attempt (Session σ) TypedValue) :
    Attempt (Session σ) TypedValue := fun w =>
  match w.nodes.find? id with
  | none => (.error (unknownNode id), w)
  | some n =>
    -- a node that is not writable refuses before it asks the namespace
    n.assign ns storePart right
      (if n.isWritable then { w with requested := w.requested + 1 } else w)

def assignName (ns : Namespace σ) (name : String) (right : Attempt (Session σ) TypedValue) :
    Attempt (Session σ) TypedValue := fun w =>
  ns.assignIn storePart name right { w with requested := w.requested + 1 }

end Session

def Producer.run {σ : Type} (ns : Namespace σ) : Producer → Attempt (Session σ) TypedValue
  | .value t, w => (.ok t, { w with produced := w.produced + 1 })
  | .fail e, w => (.error e, { w with produced := w.produced + 1 })
  | .evaluate id, w => Session.evaluate ns id { w with produced := w.produced + 1 }
  | .assign id right, w => Session.assign ns id (run ns right) { w with produced := w.produced + 1 }

end Sigil
