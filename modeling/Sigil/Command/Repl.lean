import Sigil.Command.Evaluate
import Sigil.Text.Erasure

/-!
The interactive session. A line is a reference to evaluate, an assignment of a JSON value, or a
command that starts with a colon; blank lines are skipped. A line that fails changes nothing. In a
line that comes in, each backspace has taken back the cluster before it.
-/

namespace Sigil.Command

structure Repl where
  store : Store
  state : State
  serial : Nat

inductive Line where
  | blank
  | quit
  | help
  | vars
  | pop
  | scope (json : String)
  | compile (source : String)
  | unknown (text : String)
  | assign (target json : String)
  | evaluate (target : String)
  deriving DecidableEq, Repr

def afterStart (start : String) (text : String) : Option String :=
  let s := start.toList
  if s.isPrefixOf text.toList then some (String.ofList (text.toList.drop s.length)) else none

namespace Line

def ofExpression (text : String) : Line :=
  match Text.splitAtEquals text.toList with
  | some (target, json) =>
    .assign (Text.trim (String.ofList target)) (Text.trim (String.ofList json))
  | none => .evaluate text

def ofTrimmed (text : String) : Line :=
  if text = "" then .blank
  else if text = ":quit" ∨ text = ":q" then .quit
  else if text = ":help" ∨ text = ":h" then .help
  else if text = ":vars" then .vars
  else if text = ":pop" then .pop
  else
    match afterStart ":scope " text with
    | some json => .scope json
    | none =>
      match afterStart ":compile " text with
      | some source => .compile (Text.trim source)
      | none =>
        match text.toList with
        | ':' :: _ => .unknown text
        | _ => ofExpression text

def ofText (text : String) : Line := ofTrimmed (Text.trim text)

end Line

def helpText : String :=
  "Commands:\n" ++
  "  #name              Evaluate a variable reference\n" ++
  "  #name = <json>     Assign a JSON value to a variable\n" ++
  "  :compile #name     Evaluate, compile and run a reference\n" ++
  "  :scope <json>      Enter a nested scope with the given `#this`\n" ++
  "  :pop               Leave the innermost nested scope\n" ++
  "  :vars              List bound variables\n" ++
  "  :help, :h          Show this help\n" ++
  "  :quit, :q          Exit the REPL"

def greeting : List Output :=
  [line "Lumen REPL v0.3.0", line "Type :help for help, :quit to exit", line ""]

def farewell : List Output := [line "Goodbye!"]

namespace Repl

def file : String := "<repl>"

def reportError (quiet : Bool) (source : String) (r : Reference) (e : EvalError) : List Output :=
  report quiet source file (e.diagnostic r.span)

def evaluate (quiet : Bool) (target : String) (w : Repl) : List Output × Repl :=
  match Reference.parse target with
  | .error d => (report quiet target file d, w)
  | .ok r =>
    let e := r.evaluate .standard w.state w.store
    match e.outcome with
    | .ok t => ([success t.text], { w with store := e.store })
    | .error error => (reportError quiet target r error, { w with store := e.store })

def assign (quiet : Bool) (target json : String) (w : Repl) : List Output × Repl :=
  match Reference.parse target with
  | .error d => (report quiet target file d, w)
  | .ok r =>
    match Binding.parse w.serial json with
    | .error message => (failure quiet message, w)
    | .ok t =>
      let (outcome, store) := r.assign .standard .whole (fun s => (.ok t, s)) w.store
      let w := { w with store := store, serial := w.serial + 1 }
      match outcome with
      | .ok t => ([success t.text], w)
      | .error error => (reportError quiet target r error, w)

def compile (quiet : Bool) (source : String) (w : Repl) : List Output × Repl :=
  match Reference.parse source with
  | .error d => (report quiet source file d, w)
  | .ok r =>
    let e := r.evaluate .standard w.state w.store
    let w := { w with store := e.store }
    match e.outcome with
    | .error error => (reportError quiet source r error, w)
    | .ok _ =>
      match Program.compile e.reference.codeSource w.state.config with
      | .error error => (reportError quiet source r error, w)
      | .ok p =>
        let (outcome, store) := p.run .standard w.state.root w.store
        let w := { w with store := store }
        match outcome with
        | .error error => (listing p ++ reportError quiet source r error, w)
        | .ok t => (listing p ++ [success t.text], w)

def enter (quiet : Bool) (json : String) (w : Repl) : List Output × Repl :=
  match Binding.parse w.serial json with
  | .error message => (failure quiet message, w)
  | .ok object => ([], { w with state := w.state.push object, serial := w.serial + 1 })

def leave (quiet : Bool) (w : Repl) : List Output × Repl :=
  match w.state.innermost with
  | none => (failure quiet "not inside a nested scope", w)
  | some _ => ([], { w with state := w.state.pop })

def step (quiet : Bool) (w : Repl) : Line → List Output × Repl
  | .blank | .quit => ([], w)
  | .help => ([line helpText], w)
  | .vars => (w.store.names.map fun name => line ("  #" ++ name), w)
  | .pop => leave quiet w
  | .scope json => enter quiet json w
  | .compile source => compile quiet source w
  | .unknown text => (failure quiet ("unknown command: " ++ text), w)
  | .assign target json => assign quiet target json w
  | .evaluate target => evaluate quiet target w

def run (quiet : Bool) : List String → Repl → List Output × Repl
  | [], w => ([], w)
  | text :: rest, w =>
    match Line.ofText text with
    | .quit => ([], w)
    | l =>
      let (output, w) := step quiet w l
      let (more, w) := run quiet rest w
      (output ++ more, w)

def ofSetup (setup : Setup) : Repl := ⟨setup.store, setup.state, setup.serial⟩

end Repl

def linesOf : List Char → List (List Char)
  | [] => []
  | c :: cs =>
    if c = '\n' then [] :: linesOf cs
    else
      match linesOf cs with
      | [] => [[c]]
      | l :: ls => (c :: l) :: ls

def erased (text : String) : String := String.ofList (Text.applyBackspaces text.toList)

def interact (files : Files) (quiet : Bool) (options : Options) (input : String) : Outcome :=
  match load files options with
  | .error message => .fail message greeting
  | .ok setup =>
    let lines := (linesOf input.toList).map fun l => erased (String.ofList l)
    .ok (greeting ++ ((Repl.ofSetup setup).run quiet lines).1 ++ farewell)

end Sigil.Command
