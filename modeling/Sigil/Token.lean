import Sigil.Source.Span
import Sigil.Text.Bytes
import Sigil.Unicode.Alphabetic
import Sigil.Unicode.Blank
import Sigil.Unicode.Numeric

/-!
The tokens of a reference: the marker `#`, names, and any other character by itself. White space
only separates tokens. A name is as long as it can be, and the token after the last one stands at
the end of the text.
-/

namespace Sigil

def isNameStart (c : Char) : Bool := Unicode.isAlphabetic c || c == '_' || c == '$'

def isNameContinue (c : Char) : Bool :=
  Unicode.isAlphabetic c || Unicode.isNumeric c || c == '_' || c == '$'

namespace Token

inductive Kind where
  | hash
  | ident (name : String)
  | unknown (c : Char)
  | eof
  deriving DecidableEq, Repr

end Token

structure Token where
  kind : Token.Kind
  span : Span
  deriving DecidableEq, Repr

namespace Token

/-- The tokens of a text whose first character stands at a byte offset. -/
def scan (start : Nat) : List Char → List Token
  | [] => [⟨.eof, ⟨start, start⟩⟩]
  | c :: cs =>
    if Unicode.isBlank c then scan (start + c.utf8Size) cs
    else if c = '#' then ⟨.hash, ⟨start, start + c.utf8Size⟩⟩ :: scan (start + c.utf8Size) cs
    else if isNameStart c then
      let name := c :: cs.takeWhile isNameContinue
      let stop := start + Text.byteLength name
      ⟨.ident (String.ofList name), ⟨start, stop⟩⟩ :: scan stop (cs.dropWhile isNameContinue)
    else ⟨.unknown c, ⟨start, start + c.utf8Size⟩⟩ :: scan (start + c.utf8Size) cs
termination_by cs => cs.length
decreasing_by
  all_goals simp only [List.length_cons]
  · omega
  · omega
  · exact Nat.lt_succ_of_le (List.dropWhile_sublist _).length_le
  · omega

def tokenize (source : String) : List Token := scan 0 source.toList

@[simp] theorem scan_nil (start : Nat) : scan start [] = [⟨.eof, ⟨start, start⟩⟩] := by
  rw [scan]

theorem scan_blank {c : Char} (h : Unicode.isBlank c = true) (start : Nat) (cs : List Char) :
    scan start (c :: cs) = scan (start + c.utf8Size) cs := by
  rw [scan, if_pos h]

end Token
end Sigil
