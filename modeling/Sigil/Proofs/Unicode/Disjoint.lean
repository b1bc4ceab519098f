import Sigil.Token

/-! White space, the marker, and the characters of names exclude one another. The tables are compared
by listing the code points of the smaller one. -/

namespace Sigil.Unicode

def rangePoints : List Nat → List Nat
  | a :: b :: rest => List.range' a (b - a) ++ rangePoints rest
  | _ => []

theorem mem_rangePoints {bounds : List Nat} (paired : bounds.length % 2 = 0) {c : Nat}
    (h : oddBelow bounds c = true) : c ∈ rangePoints bounds := by
  fun_induction rangePoints bounds with
  | case1 a b rest ih =>
    have hrest : rest.length % 2 = 0 := by
      simp only [List.length_cons] at paired
      omega
    rw [List.mem_append, List.mem_range'_1]
    -- Below both bounds nothing belongs to the set, between them everything does, and above them
    -- the two changes of membership cancel.
    by_cases ha : c < a
    · rw [oddBelow_cons_of_lt _ ha] at h
      contradiction
    · by_cases hb : c < b
      · left
        omega
      · rw [oddBelow_cons_of_le _ (Nat.not_lt.1 ha), oddBelow_cons_of_le _ (Nat.not_lt.1 hb),
          Bool.not_not] at h
        exact .inr (ih hrest h)
  | case2 bounds hshort =>
    match bounds, hshort, paired, h with
    | [], _, _, h => simp [oddBelow] at h
    | [_], _, paired, _ => simp at paired
    | a :: b :: rest, hshort, _, _ => exact absurd rfl (hshort a b rest)

theorem CodePointSet.contains_eq_false {s t : CodePointSet} (paired : s.bounds.length % 2 = 0)
    (h : ∀ n ∈ rangePoints s.bounds, oddBelow t.bounds n = false) {c : Char}
    (hc : s.contains c = true) : t.contains c = false :=
  h _ (mem_rangePoints paired hc)

theorem isAlphabetic_of_isBlank {c : Char} (h : isBlank c = true) : isAlphabetic c = false :=
  CodePointSet.contains_eq_false (by decide) (by decide +kernel) h

theorem isNumeric_of_isBlank {c : Char} (h : isBlank c = true) : isNumeric c = false :=
  CodePointSet.contains_eq_false (by decide) (by decide +kernel) h

end Sigil.Unicode

namespace Sigil

theorem ne_of_isBlank {c d : Char} (h : Unicode.isBlank c = true) (hd : Unicode.isBlank d = false) :
    c ≠ d := by
  rintro rfl
  rw [h] at hd
  contradiction

theorem isNameContinue_of_isBlank {c : Char} (h : Unicode.isBlank c = true) :
    isNameContinue c = false := by
  have hunderscore : c ≠ '_' := ne_of_isBlank h (by decide)
  have hdollar : c ≠ '$' := ne_of_isBlank h (by decide)
  simp [isNameContinue, Unicode.isAlphabetic_of_isBlank h, Unicode.isNumeric_of_isBlank h,
    hunderscore, hdollar]

theorem isNameContinue_of_isNameStart {c : Char} (h : isNameStart c = true) :
    isNameContinue c = true := by
  simp only [isNameStart, Bool.or_eq_true] at h
  simp only [isNameContinue, Bool.or_eq_true]
  rcases h with (h | h) | h
  · exact .inl (.inl (.inl h))
  · exact .inl (.inr h)
  · exact .inr h

theorem isBlank_of_isNameStart {c : Char} (h : isNameStart c = true) : Unicode.isBlank c = false := by
  rw [Bool.eq_false_iff]
  intro hblank
  have hc := isNameContinue_of_isNameStart h
  rw [isNameContinue_of_isBlank hblank] at hc
  contradiction

@[simp] theorem isBlank_hash : Unicode.isBlank '#' = false := by decide

@[simp] theorem isNameStart_hash : isNameStart '#' = false := by decide +kernel

theorem ne_hash_of_isNameStart {c : Char} (h : isNameStart c = true) : c ≠ '#' := by
  rintro rfl
  simp at h

end Sigil
