import Sigil.Diagnostic.Code
import Sigil.Source.Span

/-!
Diagnostics: a message about a region of a source text, with labels, notes and help. A code brings
its suggestion as help, unless help is there already; help given by name replaces any other.
-/

namespace Sigil

inductive Severity where
  | error
  | warning
  | note
  deriving DecidableEq, Repr

inductive Phase where
  | reading
  | evaluation
  | compilation
  deriving DecidableEq, Repr

structure Label where
  span : Span
  message : String
  deriving DecidableEq, Repr

structure Diagnostic where
  severity : Severity
  phase : Phase
  code : Option ErrorCode
  message : String
  span : Span
  labels : List Label
  notes : List String
  help : Option String
  deriving DecidableEq, Repr

namespace Diagnostic

def error (phase : Phase) (span : Span) (message : String) : Diagnostic :=
  ⟨.error, phase, none, message, span, [], [], none⟩

def withCode (d : Diagnostic) (code : ErrorCode) : Diagnostic :=
  { d with code := some code, help := d.help <|> code.suggestion? }

def withLabel (d : Diagnostic) (label : Label) : Diagnostic := { d with labels := d.labels ++ [label] }

def withNote (d : Diagnostic) (note : String) : Diagnostic := { d with notes := d.notes ++ [note] }

def withHelp (d : Diagnostic) (help : String) : Diagnostic := { d with help := some help }

def withSeverity (d : Diagnostic) (severity : Severity) : Diagnostic := { d with severity := severity }

def isError (d : Diagnostic) : Bool := d.severity == .error

inductive Addition where
  | code (code : ErrorCode)
  | label (label : Label)
  | note (note : String)
  | help (help : String)
  deriving DecidableEq, Repr

def add (d : Diagnostic) : Addition → Diagnostic
  | .code code => d.withCode code
  | .label label => d.withLabel label
  | .note note => d.withNote note
  | .help help => d.withHelp help

end Diagnostic
end Sigil
