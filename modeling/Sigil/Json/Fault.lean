/-!
What can be wrong with a JSON text, and where. A refusal counts the bytes of the text that were
consumed when the fault was found; its message gives them as a line and a column.
-/

namespace Sigil.Json

inductive Unfinished where
  | value
  | list
  | object
  | string
  deriving DecidableEq, Repr

inductive Fault where
  | unfinished (what : Unfinished)
  | expectedValue
  | expectedIdent
  | expectedColon
  | expectedListSeparator
  | expectedObjectSeparator
  | keyMustBeString
  | trailingComma
  | trailingCharacters
  | invalidNumber
  | numberOutOfRange
  | invalidEscape
  | controlCharacter
  | loneSurrogate
  | unfinishedSurrogatePair
  | tooDeep
  deriving DecidableEq, Repr

def Unfinished.text : Unfinished → String
  | .value => "a value"
  | .list => "a list"
  | .object => "an object"
  | .string => "a string"

def Fault.text : Fault → String
  | .unfinished what => "EOF while parsing " ++ what.text
  | .expectedValue => "expected value"
  | .expectedIdent => "expected ident"
  | .expectedColon => "expected `:`"
  | .expectedListSeparator => "expected `,` or `]`"
  | .expectedObjectSeparator => "expected `,` or `\x7d`"
  | .keyMustBeString => "key must be a string"
  | .trailingComma => "trailing comma"
  | .trailingCharacters => "trailing characters"
  | .invalidNumber => "invalid number"
  | .numberOutOfRange => "number out of range"
  | .invalidEscape => "invalid escape"
  | .controlCharacter => "control character (\\u0000-\\u001F) found while parsing a string"
  | .loneSurrogate => "lone leading surrogate in hex escape"
  | .unfinishedSurrogatePair => "unexpected end of hex escape"
  | .tooDeep => "recursion limit exceeded"

structure Position where
  line : Nat
  column : Nat
  deriving DecidableEq, Repr

def Position.advance (p : Position) : Nat → List Char → Position
  | _, [] => p
  | bytes, c :: cs =>
    -- a point inside a character counts the bytes of the character before it
    if bytes < c.utf8Size then ⟨p.line, p.column + bytes⟩
    else if c = '\n' then advance ⟨p.line + 1, 0⟩ (bytes - c.utf8Size) cs
    else advance ⟨p.line, p.column + c.utf8Size⟩ (bytes - c.utf8Size) cs

def Position.after (bytes : Nat) (text : String) : Position :=
  Position.advance ⟨1, 0⟩ bytes text.toList

def Position.text (p : Position) : String :=
  "line " ++ toString p.line ++ " column " ++ toString p.column

structure Refusal (ε : Type) where
  fault : ε
  bytes : Nat
  deriving Repr

def Refusal.message {ε : Type} (wording : ε → String) (text : String) (r : Refusal ε) : String :=
  wording r.fault ++ " at " ++ (Position.after r.bytes text).text

end Sigil.Json
