/-!
Sets of characters by the code points where membership changes. A point belongs to the set exactly
when an odd number of the bounds lie at or below it, so `[a, b]` is the range from `a` up to, and
without, `b`.
-/

namespace Sigil.Unicode

def oddBelow : List Nat → Nat → Bool
  | [], _ => false
  | b :: bs, c => if c < b then false else !oddBelow bs c

/-- A set of code points, by the increasing points at which membership changes. -/
structure CodePointSet where
  bounds : List Nat

namespace CodePointSet

def contains (s : CodePointSet) (c : Char) : Bool := oddBelow s.bounds c.toNat

end CodePointSet

theorem oddBelow_cons_of_lt {b c : Nat} (bs : List Nat) (h : c < b) : oddBelow (b :: bs) c = false := by
  simp [oddBelow, h]

theorem oddBelow_cons_of_le {b c : Nat} (bs : List Nat) (h : b ≤ c) :
    oddBelow (b :: bs) c = !oddBelow bs c := by
  simp [oddBelow, Nat.not_lt.2 h]

end Sigil.Unicode
