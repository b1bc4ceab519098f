/-!
Regions of source text. A span is a half-open range of byte offsets; offsets are natural numbers,
and offsets given from outside are kept modulo the 32 bits a position has.
-/

namespace Sigil

structure Span where
  start : Nat
  stop : Nat
  deriving DecidableEq, Repr

namespace Span

def unlocated : Span := ⟨0, 0⟩

/-- The span between two offsets, each reduced to the 32 bits of a position. -/
def ofOffsets (start stop : Nat) : Span := ⟨start % UInt32.size, stop % UInt32.size⟩

def merge (s t : Span) : Span := ⟨min s.start t.start, max s.stop t.stop⟩

def shift (s : Span) (n : Nat) : Span := ⟨s.start + n, s.stop + n⟩

def grow (s : Span) (n : Nat) : Span := ⟨s.start, s.stop + n⟩

def length (s : Span) : Nat := s.stop - s.start

def isEmpty (s : Span) : Bool := s.start == s.stop

def isUnlocated (s : Span) : Bool := s == unlocated

def text (s : Span) : String := toString s.start ++ ".." ++ toString s.stop

@[simp] theorem merge_self (s : Span) : s.merge s = s := by
  cases s; simp [merge]

theorem merge_comm (s t : Span) : s.merge t = t.merge s := by
  simp [merge, Nat.min_comm, Nat.max_comm]

@[simp] theorem shift_zero (s : Span) : s.shift 0 = s := rfl

theorem shift_shift (s : Span) (m n : Nat) : (s.shift m).shift n = s.shift (m + n) := by
  simp [shift, Nat.add_assoc]

@[simp] theorem length_shift (s : Span) (n : Nat) : (s.shift n).length = s.length := by
  simp only [shift, length]; omega

theorem eq_ofOffsets {s : Span} (hstart : s.start ≤ s.stop) (hstop : s.stop < UInt32.size) :
    s = ofOffsets s.start s.stop := by
  rw [ofOffsets, Nat.mod_eq_of_lt hstop, Nat.mod_eq_of_lt (Nat.lt_of_le_of_lt hstart hstop)]

end Span
end Sigil
