import Sigil.Text.Bytes
import Sigil.Unicode.Cluster

/-!
Erasure by backspace: what is left of a typed text in which a backspace takes back the cluster
before it.
-/

namespace Sigil.Text

structure Typing where
  kept : List Char := []  -- the last character first
  sizes : List Nat := []

def dropBytes : Nat → List Char → List Char
  | _, [] => []
  | n, c :: cs => if c.utf8Size ≤ n then dropBytes (n - c.utf8Size) cs else c :: cs

namespace Typing

def backspace : Char := '\x08'

def erasedSize (cluster : List Char) : Nat := byteLength cluster % 256

def type (t : Typing) (cluster : List Char) : Typing :=
  if cluster = [backspace] then
    match t.sizes with
    | [] => t
    | n :: ns => ⟨dropBytes n t.kept, ns⟩
  else ⟨cluster.reverse ++ t.kept, erasedSize cluster :: t.sizes⟩

end Typing

def applyBackspaces (cs : List Char) : List Char :=
  ((Unicode.clusters cs).foldl Typing.type {}).kept.reverse

end Sigil.Text
