import Sigil.Diagnostic.Basic
import Sigil.Text.Trim
import Sigil.Unicode.Wide

/-!
The printed form of a diagnostic: a header, the line of the source text that its label lies on with
the region underlined, the label's message, and help and notes below. Plain and coloured output are
one layout, whose pieces each name a colour that plain output leaves out.

Offsets are taken as positions of characters. The layout is for diagnostics with at most one label.
-/

namespace Sigil.Diagnostic

inductive Paint where
  | severity (severity : Severity)
  | frame
  | margin
  | label
  | source
  | remark
  deriving DecidableEq, Repr

structure Piece where
  paint : Option Paint
  text : String
  deriving DecidableEq, Repr

namespace Piece

def plain (text : String) : Piece := ⟨none, text⟩

def painted (paint : Paint) (text : String) : Piece := ⟨some paint, text⟩

end Piece

abbrev Row := List Piece

def Paint.number : Paint → String
  | .severity .error => "31"
  | .severity .warning => "33"
  | .severity .note => "38;5;147"
  | .frame => "38;5;246"
  | .margin => "38;5;240"
  | .label => "38;5;201"
  | .source => "38;5;249"
  | .remark => "38;5;115"

def Piece.coloured (p : Piece) : String :=
  match p.paint with
  | none => p.text
  | some paint => "\x1b[" ++ paint.number ++ "m" ++ p.text ++ "\x1b[0m"

def severityName : Severity → String
  | .error => "Error"
  | .warning => "Warning"
  | .note => "Advice"

structure SourceLine where
  start : Nat
  chars : List Char
  deriving DecidableEq, Repr

def isLineBreak (c : Char) : Bool :=
  c = '\n' || c = '\x0b' || c = '\x0c' || c = '\r' || c = '\u0085' || c = '\u2028' || c = '\u2029'

def endsLine (c : Char) (next : Option Char) : Bool :=
  -- a carriage return ends the line together with the line feed behind it
  isLineBreak c && !(c = '\r' && next = some '\n')

def sourceLines (start : Nat) : List Char → List SourceLine
  | [] => []
  | c :: cs =>
    if endsLine c cs.head? then ⟨start, [c]⟩ :: sourceLines (start + 1) cs
    else
      match sourceLines (start + 1) cs with
      | [] => [⟨start, [c]⟩]
      | line :: lines => ⟨start, c :: line.chars⟩ :: lines

def lineAt (position : Nat) (lines : List SourceLine) : Option (Nat × SourceLine) :=
  go 1 none lines
where
  go (number : Nat) (found : Option (Nat × SourceLine)) : List SourceLine → Option (Nat × SourceLine)
    | [] => found
    | line :: rest => if line.start ≤ position then go (number + 1) (some (number, line)) rest else found

def place (position size : Nat) (lines : List SourceLine) : String :=
  if size < position then "?:?"
  else
    match lineAt position lines with
    | some (number, line) => toString number ++ ":" ++ toString (position - line.start + 1)
    | none => "?:?"

def spaces (n : Nat) : String := String.ofList (List.replicate n ' ')

def marginRow (width : Nat) : Row :=
  [.plain " ", .painted .margin (spaces (width + 1) ++ "│"), .plain " "]

def cells (c : Option Char) : Nat :=
  match c with
  | some c => if Unicode.isBlank c then 1 else Unicode.cellWidth c
  | none => 1

def column (width : Nat) (first second : Piece) : Row :=
  first :: List.replicate (width - 1) second

def drawn (text : String) : Piece := .painted .label text

/-- The cells of one column of the underline. The middle of the region carries the line down to the
message. -/
def underlineColumn (first last middle width col : Nat) : Row :=
  if col = middle then
    if first ≤ col ∧ col < last then column width (drawn "┬") (drawn "─")
    else column width (drawn "│") (.painted .label " ")
  else if first ≤ col ∧ col < last then column width (drawn "─") (drawn "─")
  else column width (.plain " ") (.plain " ")

def arrowColumn (middle width col : Nat) : Row :=
  if col = middle then column width (drawn "╰") (drawn "─")
  else if middle < col then column width (drawn "─") (drawn "─")
  else column width (.plain " ") (.plain " ")

def labelRows (number : Nat) (line : SourceLine) (label : Label) (width : Nat) : List Row :=
  let shown := Text.dropBlankEnd line.chars
  let first := label.span.start - line.start
  let last := label.span.stop - line.start
  let middle := (label.span.start + label.span.stop) / 2 - line.start
  let columns := List.range (last + 2)
  let sourceRow := shown.zipIdx.map fun (c, i) =>
    Piece.painted (if first ≤ i ∧ i < last then .label else .source)
      (String.singleton (if Unicode.isBlank c then ' ' else c))
  [ [.plain " ", .painted .frame (toString number ++ " │"), .plain " "] ++ sourceRow,
    marginRow width ++ columns.flatMap fun i =>
      underlineColumn first last middle (cells shown[i]?) i,
    marginRow width ++ (columns.flatMap fun i => arrowColumn middle (cells shown[i]?) i) ++
      [.plain " ", .plain label.message] ]

def remarkRows (width : Nat) (word message : String) : List Row :=
  [marginRow width, marginRow width ++ [.painted .remark word, .plain (": " ++ message)]]

def headerRow (d : Diagnostic) : Row :=
  let code := match d.code with
    | some code => "[" ++ code.text ++ "] "
    | none => ""
  [.painted (.severity d.severity) (code ++ severityName d.severity ++ ":"), .plain (" " ++ d.message)]

def bodyRows (d : Diagnostic) (source : String) (file : String) : List Row :=
  let chars := source.toList
  let size := chars.length
  let lines := sourceLines 0 chars
  match d.labels.head? with
  | none => []
  | some label =>
    if chars.isEmpty ∨ size < label.span.start ∨
        (label.span.start ≠ label.span.stop ∧ size < label.span.stop - 1) then []
    else
      match lineAt label.span.start lines with
      | none => []
      | some (number, line) =>
        let width := (toString number).length
        -- a region that goes on beyond its line gets an empty margin in place of the line
        let within := decide (label.span.stop ≤ line.start + line.chars.length)
        [ [.plain (spaces (width + 2)), .painted .frame "╭", .painted .frame "─", .painted .frame "[",
            .plain (file ++ ":" ++ place d.span.start size lines), .painted .frame "]"],
          [.plain (spaces (width + 2)), .painted .frame "│"] ] ++
        (if within then labelRows number line label width else [marginRow width]) ++
        (match d.help with
          | some help => remarkRows width "Help" help
          | none => []) ++
        (match d.notes.getLast? with
          | some note => remarkRows width "Note" note
          | none => []) ++
        [ [.painted .frame (String.ofList (List.replicate (width + 2) '─') ++ "╯")] ]

def rows (d : Diagnostic) (source file : String) : List Row := headerRow d :: bodyRows d source file

def rowsText (write : Piece → String) (rows : List Row) : String :=
  String.join (rows.map fun row => String.join (row.map write) ++ "\n")

def render (d : Diagnostic) (source file : String) : String :=
  rowsText Piece.text (d.rows source file)

def renderColoured (d : Diagnostic) (source file : String) : String :=
  rowsText Piece.coloured (d.rows source file)

end Sigil.Diagnostic
