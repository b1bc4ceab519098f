import Sigil.Diagnostic.Layout
import Sigil.Program.Basic

/-!
What commands write: results and information to the standard output, failures and diagnostics to the
error output, where a quiet run writes nothing.
-/

namespace Sigil.Command

inductive Output where
  | out (text : String)
  | err (text : String)
  deriving DecidableEq, Repr

def line (text : String) : Output := .out (text ++ "\n")

def success (text : String) : Output := line ("\x1b[32m" ++ text ++ "\x1b[0m")

def info (text : String) : Output := line ("\x1b[34minfo:\x1b[0m " ++ text)

theorem success_eq (text : String) : success text = .out ("\x1b[32m" ++ text ++ "\x1b[0m\n") := by
  simp only [success, line, String.append_assoc, String.reduceAppend]

theorem success_append (label text : String) :
    success (label ++ text) = .out ("\x1b[32m" ++ label ++ text ++ "\x1b[0m\n") := by
  rw [success_eq, ← String.append_assoc]

theorem info_append (label text : String) :
    info (label ++ text) = .out ("\x1b[34minfo:\x1b[0m " ++ label ++ text ++ "\n") := by
  simp only [info, line, String.append_assoc]

def failure (quiet : Bool) (text : String) : List Output :=
  if quiet then [] else [.err ("\x1b[31merror:\x1b[0m " ++ text ++ "\n")]

def report (quiet : Bool) (source file : String) (d : Diagnostic) : List Output :=
  if quiet then [] else [.err (d.renderColoured source file)]

def offsetText (n : Nat) : String :=
  let digits := toString n
  Diagnostic.spaces (3 - digits.length) ++ digits

def listing (p : Program) : List Output :=
  line (p.source ++ "  ; exit " ++ p.exit.text) ::
    p.code.zipIdx.map fun (i, offset) => line ("  " ++ offsetText offset ++ ": " ++ i.text)

end Sigil.Command
