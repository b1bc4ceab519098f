import Sigil.Command.Output
import Sigil.Command.Setup
import Sigil.Program.Run
import Sigil.Reference.Emission
import Sigil.Reference.Evaluation
import Sigil.Reference.Parser

/-!
The commands for one reference. Evaluating prints its value. Compiling evaluates it once, compiles
it, lists the program and runs it on the root object.
-/

namespace Sigil.Command

structure Outcome where
  output : List Output
  failure : Option String := none

namespace Outcome

def ok (output : List Output) : Outcome := ⟨output, none⟩

def fail (message : String) (output : List Output) : Outcome := ⟨output, some message⟩

end Outcome

structure Task where
  source : String
  options : Options := {}
  scope : Option String := none

def prepare (files : Files) (quiet : Bool) (file : String) (task : Task) :
    Except Outcome (Reference × Setup) :=
  let source := Text.trim task.source
  match Reference.parse source with
  | .error d => .error (.fail "parse error" (report quiet source file d))
  | .ok r =>
    match load files task.options with
    | .error message => .error (.fail message [])
    | .ok setup =>
      match setup.enter task.scope with
      | .error message => .error (.fail message [])
      | .ok setup => .ok (r, setup)

def exitInfo (r : Reference) : Output :=
  match r.exit with
  | some exit => info ("exit type: " ++ exit.text)
  | none => info "not compilable in this scope"

def evaluate (files : Files) (quiet verbose : Bool) (task : Task) : Outcome :=
  match prepare files quiet "<eval>" task with
  | .error outcome => outcome
  | .ok (r, setup) =>
    let e := r.evaluate .standard setup.state setup.store
    match e.outcome with
    | .ok t => .ok (success t.text :: if verbose then [exitInfo e.reference] else [])
    | .error error =>
      .fail "evaluation error" (report quiet (Text.trim task.source) "<eval>" (error.diagnostic r.span))

def compile (files : Files) (quiet : Bool) (task : Task) : Outcome :=
  match prepare files quiet "<compile>" task with
  | .error outcome => outcome
  | .ok (r, setup) =>
    let refuse (output : List Output) (error : EvalError) : Outcome :=
      .fail "compilation failed"
        (output ++ report quiet (Text.trim task.source) "<compile>" (error.diagnostic r.span))
    let e := r.evaluate .standard setup.state setup.store
    match e.outcome with
    | .error error => refuse [] error
    | .ok interpreted =>
      match Program.compile e.reference.codeSource setup.state.config with
      | .error error => refuse [] error
      | .ok p =>
        match (p.run .standard setup.state.root e.store).1 with
        | .error error => refuse (listing p) error
        | .ok compiled =>
          .ok (listing p ++
            [info ("interpreted: " ++ interpreted.text), success ("compiled:    " ++ compiled.text)])

end Sigil.Command
