import Sigil.Command.Run

/-!
The program: reads the files and lines that a request needs and writes what it answers.
-/

namespace Sigil.Command

def write : Output → IO Unit
  | .out text => do
    (← IO.getStdout).putStr text
    (← IO.getStdout).flush
  | .err text => do (← IO.getStderr).putStr text

def FileError.ofCode (code : UInt32) (reason : String) : FileError :=
  let number := min code (0 - code)
  if number = 2 then .notFound
  else if number = 20 then .notDirectory
  else if number = 21 then .isDirectory
  else if number = 36 then .nameTooLong
  else .other (reason ++ " (os error " ++ toString number ++ ")")

def FileError.ofIO : IO.Error → FileError
  | .noFileOrDirectory _ code reason | .inappropriateType _ code reason
  | .invalidArgument _ code reason | .permissionDenied _ code reason
  | .otherError code reason => .ofCode code reason
  | e => .other (toString e)

def readPath (path : String) : IO (Except FileError String) := do
  try
    let bytes ← IO.FS.readBinFile path
    match String.fromUTF8? bytes with
    | some text => pure (.ok text)
    | none => pure (.error .notText)
  catch e => pure (.error (.ofIO e))

def readPaths (paths : List String) : IO Files := do
  let contents ← paths.mapM fun path => do pure (path, ← readPath path)
  pure fun path => (contents.lookup path).getD (.error .notFound)

partial def answer (quiet : Bool) (w : Repl) : IO Unit := do
  let text ← (← IO.getStdin).getLine
  if text.isEmpty then pure ()
  else
    match Line.ofText (erased text) with
    | .quit => pure ()
    | l =>
      let (output, w) := Repl.step quiet w l
      output.forM write
      answer quiet w

def interactive (quiet : Bool) (files : Files) (options : Options) : IO UInt32 := do
  greeting.forM write
  match load files options with
  | .error message =>
    (failure quiet message).forM write
    pure 1
  | .ok setup =>
    answer quiet (Repl.ofSetup setup)
    farewell.forM write
    pure 0

end Sigil.Command

open Sigil.Command in
def main (args : List String) : IO UInt32 := do
  match Request.ofArguments args with
  | none =>
    usage.output.forM write
    pure usage.status
  | some r =>
    let files ← readPaths r.paths
    match r.action with
    | .interact options => interactive r.quiet files options
    | _ =>
      let exit := r.run files ""
      exit.output.forM write
      pure exit.status
