import Sigil.Binding
import Sigil.Command.Folder
import Sigil.Config.Reader
import Sigil.Namespace.Store
import Sigil.State

/-!
What a command evaluates with, from its options: settings and bindings from files, and a root object
from text. They are read in this order, and the first that cannot be read ends the command.
-/

namespace Sigil.Command

structure Options where
  vars : Option String := none
  root : Option String := none
  config : Option String := none
  readOnly : Bool := false
  deriving DecidableEq, Repr

structure Setup where
  store : Store
  state : State
  serial : Nat

def readFile (files : Files) (path : String) : Except String String :=
  (files path).mapError fun error => "cannot read " ++ path ++ ": " ++ error.message

def loadConfig (files : Files) : Option String → Except String Config
  | none => .ok {}
  | some path =>
    match readFile files path with
    | .error message => .error message
    | .ok text => (Config.parse text).mapError Config.Error.message

def loadBindings (files : Files) (serial : Nat) : Option String → Except String (Dictionary TypedValue)
  | none => .ok .empty
  | some path =>
    match readFile files path with
    | .error message => .error message
    | .ok text => (Bindings.parse serial text).mapError fun message => path ++ ": " ++ message

def loadRoot (serial : Nat) : Option String → Except String TypedValue
  | none => .ok .null
  | some text => Binding.parse serial text

def load (files : Files) (options : Options) : Except String Setup :=
  match loadConfig files options.config with
  | .error message => .error message
  | .ok config =>
    match loadBindings files 0 options.vars with
    | .error message => .error message
    | .ok bindings =>
      let serial := bindings.names.length
      match loadRoot serial options.root with
      | .error message => .error message
      | .ok root =>
        .ok ⟨⟨bindings, options.readOnly⟩, { root := root, config := config }, serial + 1⟩

def Setup.enter (setup : Setup) : Option String → Except String Setup
  | none => .ok setup
  | some text =>
    match Binding.parse setup.serial text with
    | .error message => .error message
    | .ok object =>
      .ok { setup with state := setup.state.push object, serial := setup.serial + 1 }

end Sigil.Command
