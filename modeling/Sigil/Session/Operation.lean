import Sigil.Namespace.Store
import Sigil.Reference.Parser
import Sigil.Session.Basic

/-!
The operations on a session and what they answer. A step that fails leaves everything as it was but
for what evaluations and assignments did before they failed.
-/

namespace Sigil

inductive FrameSource where
  | current
  | context (object : TypedValue)
  | fresh (ns : Namespace Store) (store : Store) (object : Option TypedValue)

inductive Operation where
  | parse (id source : String)
  | refer (id name : String)
  | host (id : String) (node : HostNode)
  | describe (node : String)
  | evaluate (node : String)
  | assign (node : String) (right : Producer)
  | assignName (name : String) (right : Producer)
  | set (name : String) (value : Option Value)
  | lookup (name : String)
  | value (name : String)
  | takePlace (node id : String)
  | readPlace (id : String)
  | showPlace (id : String)
  | writePlace (id : String) (value : Option Value)
  | push (object : TypedValue)
  | pushRoot
  | pop
  | context
  | configure (config : Config)
  | compile (node id : String) (config : Option Config)
  | run (program : String) (frame : FrameSource)
  | emit (nodes : List String) (config : Option Config)

structure EmissionStep where
  failure : Option EvalError
  depth : Nat
  last : Option Descriptor

inductive Reply where
  | node (n : Node)
  | rejected (d : Diagnostic)
  | failed (e : EvalError)
  | value (r : Except EvalError TypedValue)
  | evaluated (r : Except EvalError TypedValue) (exit : ExitSignature)
  | assigned (r : Except EvalError TypedValue) (produced requested : Nat)
  | stored (r : Except EvalError Unit)
  | binding (r : Except EvalError (Option TypedValue))
  | place (p : Place)
  | shown (text : String)
  | nested (nested : Bool)
  | popped (object : Option TypedValue) (nested : Bool)
  | context (active root : TypedValue) (nested : Bool)
  | config (config : Config)
  | program (p : Program)
  | emitted (em : Emission) (trail : List EmissionStep)
  | unknown (id : String)

namespace Session

variable {σ : Type}

def addNode (w : Session σ) (id : String) (n : Node) : Reply × Session σ :=
  (.node n, { w with nodes := w.nodes.insert id n })

def counting (f : Attempt (Session σ) TypedValue) (w : Session σ) : Reply × Session σ :=
  let (r, after) := f w
  (.assigned r (after.produced - w.produced) (after.requested - w.requested), after)

def emitAll (w : Session σ) (em : Emission) : List String → Emission × List EmissionStep
  | [] => (em, [])
  | id :: ids =>
    let (failure, em) :=
      match w.nodes.find? id with
      | none => (some (unknownNode id), em)
      | some n =>
        match n.codeSource.generate em with
        | (.ok (), em) => (none, em)
        | (.error e, em) => (some e, em)
    -- after a failure the next node goes on from what was emitted
    let (last, trail) := emitAll w em ids
    (last, ⟨failure, em.depth, em.lastType⟩ :: trail)

def runProgram (ns : Namespace σ) (p : Program) (frame : FrameSource) (w : Session σ) :
    Reply × Session σ :=
  match frame with
  | .current =>
    let (r, s) := p.run ns w.state.root w.store
    (.value r, { w with store := s })
  | .context object =>
    let (r, s) := p.run ns object w.store
    (.value r, { w with store := s })
  | .fresh ns store object => (.value (p.run ns (object.getD w.state.root) store).1, w)

def step (ns : Namespace σ) (op : Operation) (w : Session σ) : Reply × Session σ :=
  match op with
  | .parse id source =>
    match Reference.parse source with
    | .ok r => w.addNode id (.reference r)
    | .error d => (.rejected d, w)
  | .refer id name =>
    match Reference.ofText name .unlocated with
    | .ok r => w.addNode id (.reference r)
    | .error e => (.failed e, w)
  | .host id node => w.addNode id (.host node)
  | .describe id =>
    match w.nodes.find? id with
    | some n => (.node n, w)
    | none => (.unknown id, w)
  | .evaluate id =>
    let (r, w) := evaluate ns id w
    (.evaluated r ((w.nodes.find? id).bind Node.exit), w)
  | .assign id right => counting (assign ns id (right.run ns)) w
  | .assignName name right => counting (assignName ns name (right.run ns)) w
  | .set name value =>
    let (r, w) := storePart.lift (ns.set name value) w
    (.stored r, w)
  | .lookup name =>
    let (r, w) := storePart.lift (ns.lookup name) w
    (.binding r, w)
  | .value name =>
    let (r, w) := storePart.lift (w.state.lookup ns name) w
    (.value r, w)
  | .takePlace node id =>
    match w.nodes.find? node with
    | none => (.unknown node, w)
    | some n =>
      match storePart.lift (n.place ns w.state) w with
      | (.ok p, w) => (.place p, { w with places := w.places.insert id p })
      | (.error e, w) => (.failed e, w)
  | .readPlace id =>
    match w.places.find? id with
    | some p => (.place p, w)
    | none => (.unknown id, w)
  | .showPlace id =>
    match w.places.find? id with
    | some p => (.shown p.shown, w)
    | none => (.unknown id, w)
  | .writePlace id value =>
    match w.places.find? id with
    | some p =>
      let (r, w) := storePart.lift (p.write ns value) w
      (.stored r, w)
    | none => (.unknown id, w)
  | .push object =>
    let w := { w with state := w.state.push object }
    (.nested w.state.isNested, w)
  | .pushRoot =>
    let w := { w with state := w.state.pushRoot }
    (.nested w.state.isNested, w)
  | .pop =>
    let left := w.state.innermost
    let w := { w with state := w.state.pop }
    (.popped left w.state.isNested, w)
  | .context => (.context w.state.active w.state.root w.state.isNested, w)
  | .configure config => (.config config, { w with state := { w.state with config := config } })
  | .compile node id config =>
    match w.nodes.find? node with
    | none => (.unknown node, w)
    | some n =>
      match Program.compile n.codeSource (config.getD w.state.config) with
      | .ok p => (.program p, { w with programs := w.programs.insert id p })
      | .error e => (.failed e, w)
  | .run id frame =>
    match w.programs.find? id with
    | some p => runProgram ns p frame w
    | none => (.unknown id, w)
  | .emit nodes config =>
    let (em, trail) := w.emitAll (.start (config.getD w.state.config)) nodes
    (.emitted em trail, w)

def steps (ns : Namespace σ) : List Operation → Session σ → List Reply × Session σ
  | [], w => ([], w)
  | op :: ops, w =>
    let (reply, w) := step ns op w
    let (replies, w) := steps ns ops w
    (reply :: replies, w)

end Session
end Sigil
