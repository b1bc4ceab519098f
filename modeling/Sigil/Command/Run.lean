import Sigil.Command.Arguments
import Sigil.Command.Repl

/-!
A whole run of the program: from arguments, files and standard input to the output and the exit
status. A run fails with status one after writing the failure last; arguments without a meaning give
status two.
-/

namespace Sigil.Command

structure Exit where
  output : List Output
  status : UInt32

def versionText : String := "lumen 0.3.0"

def Outcome.exit (quiet : Bool) (o : Outcome) : Exit :=
  match o.failure with
  | none => ⟨o.output, 0⟩
  | some message => ⟨o.output ++ Command.failure quiet message, 1⟩

def Request.run (r : Request) (files : Files) (input : String) : Exit :=
  match r.action with
  | .version => ⟨[line versionText], 0⟩
  | .evaluate task => (evaluate files r.quiet r.verbose task).exit r.quiet
  | .compile task => (compile files r.quiet task).exit r.quiet
  | .interact options => (interact files r.quiet options input).exit r.quiet

def usage : Exit := ⟨[.err "error: unexpected arguments\n"], 2⟩

def run (args : List String) (files : Files) (input : String) : Exit :=
  match Request.ofArguments args with
  | some r => r.run files input
  | none => usage

def Request.paths (r : Request) : List String :=
  match r.action with
  | .version => []
  | .evaluate task | .compile task => of task.options
  | .interact options => of options
where
  of (o : Options) : List String := o.config.toList ++ o.vars.toList

end Sigil.Command
