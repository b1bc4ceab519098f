import Sigil.Proofs.Json.Lexeme
import Sigil.Proofs.Json.Members
import Sigil.Proofs.Dictionary.Lookup

/-! How trees are spelled in a text: what is read as a tree wherever it stands. Scalars have spellings of their
own, and arrays and objects are spelled by their parts, with gaps of blanks between them. -/

namespace Sigil.Json

/-- The characters are read as this tree wherever they stand, if so many arrays and objects may still be
opened. -/
structure Spells (depth : Nat) (cs : List Char) (j : Json) : Prop where
  starts : ∃ x rest, cs = x :: rest ∧ isBlank x = false ∧ x ≠ ']'
  -- A step and the value inside it take at least one character together.
  takes : ∀ bound rest, 2 * cs.length ≤ bound → EndsNumber rest → Takes (readValue bound depth) cs rest j

theorem readValue_skipBlanks (bound depth : Nat) (c : Cursor) :
    readValue (bound + 1) depth c.skipBlanks = readValue (bound + 1) depth c := by
  simp only [readValue, Cursor.skipBlanks_skipBlanks]

section Scalars

variable {depth : Nat}

theorem ne_of_isDigit {x y : Char} (hx : x.isDigit = true) (hy : y.isDigit = false) : x ≠ y := by
  rintro rfl
  rw [hx] at hy
  contradiction

theorem isBlank_of_isDigit {x : Char} (hx : x.isDigit = true) : isBlank x = false := by
  have hne {y : Char} (hy : y.isDigit = false) : (x == y) = false := beq_false_of_ne (ne_of_isDigit hx hy)
  simp only [isBlank, hne (y := ' ') (by decide), hne (y := '\n') (by decide), hne (y := '\t') (by decide),
    hne (y := '\r') (by decide), Bool.or_self]

theorem spells_of_readValue {x : Char} {cs : List Char} {j : Json} (solid : isBlank x = false) (hx : x ≠ ']')
    (h : ∀ bound rest, 2 * cs.length < bound → EndsNumber rest → ∀ c : Cursor,
      c.rest = x :: (cs ++ rest) → c.skipBlanks = c →
        ∃ last, readValue (bound + 1) depth c = .ok (j, last) ∧ last.rest = rest) :
    Spells depth (x :: cs) j where
  starts := ⟨x, cs, rfl, solid, hx⟩
  takes := by
    intro bound rest hbound ends c hc
    cases bound with
    | zero => simp at hbound
    | succ bound =>
      have hskip : c.skipBlanks.rest = x :: (cs ++ rest) := Cursor.rest_skipBlanks_cons hc solid
      have hbound' : 2 * cs.length < bound := by
        rw [List.length_cons] at hbound
        omega
      rw [← readValue_skipBlanks]
      exact h bound rest hbound' ends c.skipBlanks hskip c.skipBlanks_skipBlanks

theorem spells_bool (b : Bool) : Spells depth (if b then "true" else "false").toList (.bool b) := by
  cases b with
  | true =>
    change Spells depth ['t', 'r', 'u', 'e'] _
    refine spells_of_readValue (by decide) (by decide) fun bound rest _ _ c hc hskip => ?_
    simp only [readValue, hskip, hc, Char.reduceEq, if_false, if_true]
    exact takes_readName ['r', 'u', 'e'] rest (Json.bool true) c.next (Cursor.rest_next hc)
  | false =>
    change Spells depth ['f', 'a', 'l', 's', 'e'] _
    refine spells_of_readValue (by decide) (by decide) fun bound rest _ _ c hc hskip => ?_
    simp only [readValue, hskip, hc, Char.reduceEq, if_false, if_true]
    exact takes_readName ['a', 'l', 's', 'e'] rest (Json.bool false) c.next (Cursor.rest_next hc)

theorem spells_nat {n : Nat} (fits : n ≤ maxSignificand) :
    Spells depth (Nat.toDigits 10 n) (.number (.int n)) := by
  obtain ⟨x, cs, hdigits⟩ := List.exists_cons_of_ne_nil (Nat.toDigits_ne_nil (b := 10) (n := n))
  have hx : x.isDigit = true :=
    Nat.isDigit_of_mem_toDigits (by decide) (by decide) (hdigits ▸ List.mem_cons_self)
  rw [hdigits]
  refine spells_of_readValue (isBlank_of_isDigit hx) (ne_of_isDigit hx (by decide))
    fun bound rest _ ends c hc hskip => ?_
  have htakes := (takes_readNumber false fits ends).map Json.number
  rw [hdigits] at htakes
  simp only [readValue, hskip, hc, ne_of_isDigit hx (y := 'n') (by decide),
    ne_of_isDigit hx (y := 't') (by decide), ne_of_isDigit hx (y := 'f') (by decide),
    ne_of_isDigit hx (y := '-') (by decide), hx, if_false, if_true]
  exact htakes c hc

theorem spells_negative {n : Nat} (hn : n ≠ 0) (fits : n ≤ 2 ^ 63) :
    Spells depth ('-' :: Nat.toDigits 10 n) (.number (.int (-n))) := by
  refine spells_of_readValue (by decide) (by decide) fun bound rest _ ends c hc hskip => ?_
  have hinteger : integer true n = .int (-n) := by
    have hwide : ¬(n = 0 ∨ UInt64.size / 2 < n) := by
      rintro (h | h)
      · exact hn h
      · exact Nat.not_lt.2 fits h
    simp only [integer, hwide, if_true, if_false]
  have htakes := (takes_readNumber true (fits.trans (by decide)) ends).map Json.number
  rw [hinteger] at htakes
  simp only [readValue, hskip, hc, Char.reduceEq, if_false, if_true]
  exact htakes c.next (Cursor.rest_next hc)

theorem spells_int (n : Int64) : Spells depth (toString n.toInt).toList (.number (.int n.toInt)) := by
  have hlower : -2 ^ 63 ≤ n.toInt := n.le_toInt
  have hupper : n.toInt < 2 ^ 63 := n.toInt_lt
  rw [Int.toString_eq_repr, Int.repr_eq_if]
  split
  · next hnonneg =>
    have hfits : n.toInt.toNat ≤ maxSignificand := by
      change _ ≤ 2 ^ 64 - 1
      omega
    have hspells : Spells depth (Nat.toDigits 10 n.toInt.toNat) _ := spells_nat hfits
    rwa [Int.toNat_of_nonneg hnonneg, ← Nat.toList_repr] at hspells
  · next hneg =>
    have hspells : Spells depth ('-' :: Nat.toDigits 10 (-n.toInt).toNat) _ :=
      spells_negative (by omega) (by omega)
    rw [Int.toNat_of_nonneg (by omega), Int.neg_neg, ← Nat.toList_repr] at hspells
    rw [String.toList_append]
    exact hspells

theorem spells_string {s : String} (verbatim : Verbatim s) :
    Spells depth ('"' :: (s.toList ++ ['"'])) (.string s) := by
  refine spells_of_readValue (by decide) (by decide) fun bound rest _ _ c hc hskip => ?_
  simp only [readValue, hskip, hc, Char.reduceEq, Char.reduceIsDigit, Bool.false_eq_true, if_false, if_true]
  exact (takes_readString verbatim rest).map Json.string c.next (Cursor.rest_next hc)

end Scalars

def behind (gap : List Char) (parts : List (List Char)) : List Char :=
  parts.flatMap fun part => ',' :: (gap ++ part)

theorem behind_cons (gap part : List Char) (parts : List (List Char)) :
    behind gap (part :: parts) = ',' :: (gap ++ (part ++ behind gap parts)) := by
  simp only [behind, List.flatMap_cons, List.cons_append, List.append_assoc]

theorem intercalate_comma (gap part : List Char) (parts : List (List Char)) :
    (',' :: gap).intercalate (part :: parts) = part ++ behind gap parts := by
  induction parts generalizing part with
  | nil => simp [List.intercalate, behind]
  | cons part' parts ih =>
    rw [List.intercalate_cons_cons, ih, behind_cons, List.append_assoc, List.cons_append]

theorem endsNumber_behind {gap : List Char} {parts : List (List Char)} {x : Char} {rest : List Char}
    (ends : EndsNumber (x :: rest)) : EndsNumber (behind gap parts ++ x :: rest) := by
  cases parts with
  | nil => exact ends
  | cons part parts =>
    rw [behind_cons]
    exact endsNumber_cons.2 (by decide)

section Gaps

variable {gap : List Char} {depth bound : Nat} {rest : List Char}

theorem Spells.takes_behind {cs : List Char} {j : Json} (h : Spells depth cs j)
    (blank : ∀ x ∈ gap, isBlank x = true) (hbound : 2 * cs.length ≤ bound) (ends : EndsNumber rest)
    {c : Cursor} (hc : c.rest = gap ++ (cs ++ rest)) :
    ∃ last, readValue bound depth c = .ok (j, last) ∧ last.rest = rest := by
  obtain ⟨x, cs', rfl, solid, -⟩ := h.starts
  have hskip : c.skipBlanks.rest = x :: cs' ++ rest :=
    Cursor.rest_skipBlanks_append hc blank (by simpa using solid)
  cases bound with
  | zero => simp at hbound
  | succ bound =>
    rw [← readValue_skipBlanks]
    exact h.takes (bound + 1) rest hbound ends c.skipBlanks hskip

theorem nextItem_closing {c : Cursor} (hc : c.rest = ']' :: rest) (first : Bool) :
    nextItem first c = .ok none ∧ c.skipBlanks.next.rest = rest := by
  have hskip := Cursor.rest_skipBlanks_cons hc (by decide)
  exact ⟨by simp [nextItem, hskip], Cursor.rest_next hskip⟩

theorem nextItem_first {c : Cursor} {cs : List Char} {j : Json} (h : Spells depth cs j)
    (hc : c.rest = cs ++ rest) : ∃ next, nextItem true c = .ok (some next) ∧ next.rest = cs ++ rest := by
  obtain ⟨x, cs', rfl, solid, hx⟩ := h.starts
  have hskip : c.skipBlanks.rest = x :: (cs' ++ rest) := Cursor.rest_skipBlanks_cons hc solid
  exact ⟨c.skipBlanks, by simp [nextItem, hskip], hskip⟩

theorem nextItem_comma {c : Cursor} {cs : List Char} {j : Json} (h : Spells depth cs j)
    (blank : ∀ x ∈ gap, isBlank x = true) (hc : c.rest = ',' :: (gap ++ (cs ++ rest))) :
    ∃ next, nextItem false c = .ok (some next) ∧ next.rest = cs ++ rest := by
  obtain ⟨x, cs', rfl, solid, hx⟩ := h.starts
  have hskip := Cursor.rest_skipBlanks_cons hc (by decide)
  have hnext : c.skipBlanks.next.skipBlanks.rest = x :: (cs' ++ rest) :=
    Cursor.rest_skipBlanks_append (Cursor.rest_next hskip) blank (by simpa using solid)
  exact ⟨c.skipBlanks.next.skipBlanks, by simp [nextItem, hskip, hnext, hx], hnext⟩

theorem readItems_next {first : Bool} {c next after : Cursor} {item : Json}
    (hnext : nextItem first c = .ok (some next)) (hvalue : readValue bound depth next = .ok (item, after))
    (before : List Json) :
    readItems (bound + 1) depth first before c = readItems bound depth false (item :: before) after := by
  simp only [readItems, hnext, hvalue]

theorem readItems_closing {c : Cursor} (hc : c.rest = ']' :: rest) (first : Bool) (before : List Json) :
    ∃ last, readItems (bound + 1) depth first before c = .ok (.array before.reverse, last) ∧
      last.rest = rest := by
  obtain ⟨hnext, hlast⟩ := nextItem_closing hc first
  exact ⟨c.skipBlanks.next, by simp only [readItems, hnext], hlast⟩

theorem readItems_behind (blank : ∀ x ∈ gap, isBlank x = true) {parts : List (List Char)} {items : List Json}
    (spells : List.Forall₂ (Spells depth) parts items) (hbound : 2 * (behind gap parts).length < bound)
    (before : List Json) {c : Cursor} (hc : c.rest = behind gap parts ++ ']' :: rest) :
    ∃ last, readItems bound depth false before c = .ok (.array (before.reverse ++ items), last) ∧
      last.rest = rest := by
  -- A part with its comma takes one step and at least one character, which count twice in the bound.
  induction spells generalizing bound before c with
  | nil =>
    obtain ⟨bound, rfl⟩ := Nat.exists_eq_add_of_lt hbound
    rw [List.append_nil]
    exact readItems_closing hc false before
  | @cons part item parts items hpart _ ih =>
    rw [behind_cons] at hc
    simp only [List.cons_append, List.append_assoc] at hc
    simp only [behind_cons, List.length_cons, List.length_append] at hbound
    obtain ⟨bound, rfl⟩ := Nat.exists_eq_add_one_of_ne_zero (Nat.ne_zero_of_lt hbound)
    have hpartBound : 2 * part.length ≤ bound := by omega
    have hpartsBound : 2 * (behind gap parts).length < bound := by omega
    have ends : EndsNumber (behind gap parts ++ ']' :: rest) :=
      endsNumber_behind (endsNumber_cons.2 (by decide))
    obtain ⟨next, hnext, hrest⟩ := nextItem_comma hpart blank hc
    obtain ⟨after, hvalue, hafter⟩ := hpart.takes bound _ hpartBound ends next hrest
    obtain ⟨last, hitems, hlast⟩ := ih hpartsBound (item :: before) hafter
    refine ⟨last, ?_, hlast⟩
    rw [readItems_next hnext hvalue, hitems, List.reverse_cons, List.append_assoc, List.singleton_append]

theorem spells_array (blank : ∀ x ∈ gap, isBlank x = true) {parts : List (List Char)} {items : List Json}
    (spells : List.Forall₂ (Spells depth) parts items) :
    Spells (depth + 1) ('[' :: ((',' :: gap).intercalate parts ++ [']'])) (.array items) := by
  refine spells_of_readValue (by decide) (by decide) fun bound rest hbound _ c hc hskip => ?_
  have hopen : readValue (bound + 1) (depth + 1) c = readItems bound depth true [] c.next := by
    simp only [readValue, hskip, hc, Char.reduceEq, Char.reduceIsDigit, Bool.false_eq_true, if_false, if_true]
  have hnext := Cursor.rest_next hc
  rw [List.append_assoc, List.singleton_append] at hnext
  obtain ⟨bound, rfl⟩ := Nat.exists_eq_add_one_of_ne_zero (Nat.ne_zero_of_lt hbound)
  rw [hopen]
  cases spells with
  | nil => exact readItems_closing hnext true []
  | @cons part item parts items hpart hparts =>
    rw [intercalate_comma, List.append_assoc] at hnext
    simp only [intercalate_comma, List.length_append, List.length_singleton] at hbound
    have hpartBound : 2 * part.length ≤ bound := by omega
    have hpartsBound : 2 * (behind gap parts).length < bound := by omega
    have ends : EndsNumber (behind gap parts ++ ']' :: rest) :=
      endsNumber_behind (endsNumber_cons.2 (by decide))
    obtain ⟨next, hfirst, hrest⟩ := nextItem_first hpart hnext
    obtain ⟨after, hvalue, hafter⟩ := hpart.takes bound _ hpartBound ends next hrest
    obtain ⟨last, hitems, hlast⟩ := readItems_behind blank hparts hpartsBound [item] hafter
    refine ⟨last, ?_, hlast⟩
    rw [readItems_next hfirst hvalue, hitems, List.reverse_singleton, List.singleton_append]

structure SpellsMember (gap : List Char) (depth : Nat) (cs : List Char) (m : String × Json) : Prop where
  name : Verbatim m.1
  value : ∃ part, Spells depth part m.2 ∧ cs = '"' :: (m.1.toList ++ '"' :: ':' :: (gap ++ part))

theorem nextMember_closing {c : Cursor} (hc : c.rest = '\x7d' :: rest) (first : Bool) :
    nextMember first c = .ok none ∧ c.skipBlanks.next.rest = rest := by
  have hskip := Cursor.rest_skipBlanks_cons hc (by decide)
  exact ⟨by simp [nextMember, hskip], Cursor.rest_next hskip⟩

theorem nextMember_first {c : Cursor} {cs : List Char} {m : String × Json} (h : SpellsMember gap depth cs m)
    (hc : c.rest = cs ++ rest) : ∃ next, nextMember true c = .ok (some next) ∧ next.rest = cs ++ rest := by
  obtain ⟨part, -, rfl⟩ := h.value
  have hskip := Cursor.rest_skipBlanks_cons hc (by decide)
  exact ⟨c.skipBlanks, by simp [nextMember, hskip], hskip⟩

theorem nextMember_comma {c : Cursor} {cs : List Char} {m : String × Json} (h : SpellsMember gap depth cs m)
    (blank : ∀ x ∈ gap, isBlank x = true) (hc : c.rest = ',' :: (gap ++ (cs ++ rest))) :
    ∃ next, nextMember false c = .ok (some next) ∧ next.rest = cs ++ rest := by
  obtain ⟨part, -, rfl⟩ := h.value
  have hskip := Cursor.rest_skipBlanks_cons hc (by decide)
  have hnext : c.skipBlanks.next.skipBlanks.rest =
      '"' :: (m.1.toList ++ '"' :: ':' :: (gap ++ part)) ++ rest :=
    Cursor.rest_skipBlanks_append (Cursor.rest_next hskip) blank (by simp [isBlank])
  exact ⟨c.skipBlanks.next.skipBlanks, by simp [nextMember, hskip, hnext], hnext⟩

theorem readColon_colon {c : Cursor} (hc : c.rest = ':' :: rest) :
    ∃ next, readColon c = .ok next ∧ next.rest = rest := by
  have hskip := Cursor.rest_skipBlanks_cons hc (by decide)
  exact ⟨c.skipBlanks.next, by simp [readColon, hskip], Cursor.rest_next hskip⟩

theorem readPairs_next (blank : ∀ x ∈ gap, isBlank x = true) {cs : List Char} {m : String × Json}
    (h : SpellsMember gap depth cs m) (hbound : 2 * cs.length ≤ bound) (ends : EndsNumber rest) {first : Bool}
    {c next : Cursor} (hnext : nextMember first c = .ok (some next)) (hrest : next.rest = cs ++ rest) :
    ∃ after, after.rest = rest ∧ readPairs (bound + 1) depth first c =
      (readPairs bound depth false after).map fun p => (m :: p.1, p.2) := by
  obtain ⟨name, value⟩ := m
  obtain ⟨part, hpart, rfl⟩ := h.value
  simp only [List.cons_append, List.append_assoc] at hrest
  simp only [List.length_cons, List.length_append] at hbound
  have hname := Cursor.rest_next hrest
  rw [← List.singleton_append, ← List.append_assoc] at hname
  obtain ⟨named, hstring, hnamed⟩ := takes_readString h.name _ next.next hname
  obtain ⟨colon, hcolon, hbehind⟩ := readColon_colon hnamed
  have hpartBound : 2 * part.length ≤ bound := by omega
  obtain ⟨after, hvalue, hafter⟩ := hpart.takes_behind blank hpartBound ends hbehind
  refine ⟨after, hafter, ?_⟩
  simp only [readPairs, hnext, hstring, hcolon, hvalue]

theorem readPairs_closing {c : Cursor} (hc : c.rest = '\x7d' :: rest) (first : Bool) :
    ∃ last, readPairs (bound + 1) depth first c = .ok ([], last) ∧ last.rest = rest := by
  obtain ⟨hnext, hlast⟩ := nextMember_closing hc first
  exact ⟨c.skipBlanks.next, by simp only [readPairs, hnext], hlast⟩

theorem readPairs_behind (blank : ∀ x ∈ gap, isBlank x = true) {parts : List (List Char)}
    {pairs : List (String × Json)} (spells : List.Forall₂ (SpellsMember gap depth) parts pairs)
    (hbound : 2 * (behind gap parts).length < bound) {c : Cursor}
    (hc : c.rest = behind gap parts ++ '\x7d' :: rest) :
    ∃ last, readPairs bound depth false c = .ok (pairs, last) ∧ last.rest = rest := by
  induction spells generalizing bound c with
  | nil =>
    obtain ⟨bound, rfl⟩ := Nat.exists_eq_add_of_lt hbound
    exact readPairs_closing hc false
  | @cons part m parts pairs hpart _ ih =>
    rw [behind_cons] at hc
    simp only [List.cons_append, List.append_assoc] at hc
    simp only [behind_cons, List.length_cons, List.length_append] at hbound
    obtain ⟨bound, rfl⟩ := Nat.exists_eq_add_one_of_ne_zero (Nat.ne_zero_of_lt hbound)
    have hpartBound : 2 * part.length ≤ bound := by omega
    have hpartsBound : 2 * (behind gap parts).length < bound := by omega
    have ends : EndsNumber (behind gap parts ++ '\x7d' :: rest) :=
      endsNumber_behind (endsNumber_cons.2 (by decide))
    obtain ⟨next, hnext, hrest⟩ := nextMember_comma hpart blank hc
    obtain ⟨after, hafter, hread⟩ := readPairs_next blank hpart hpartBound ends hnext hrest
    obtain ⟨last, hpairs, hlast⟩ := ih hpartsBound hafter
    exact ⟨last, by rw [hread, hpairs]; rfl, hlast⟩

theorem readPairs_intercalate (blank : ∀ x ∈ gap, isBlank x = true) {parts : List (List Char)}
    {pairs : List (String × Json)} (spells : List.Forall₂ (SpellsMember gap depth) parts pairs)
    (hbound : 2 * ((',' :: gap).intercalate parts).length + 1 < bound) {c : Cursor}
    (hc : c.rest = (',' :: gap).intercalate parts ++ '\x7d' :: rest) :
    ∃ last, readPairs bound depth true c = .ok (pairs, last) ∧ last.rest = rest := by
  obtain ⟨bound, rfl⟩ := Nat.exists_eq_add_one_of_ne_zero (Nat.ne_zero_of_lt hbound)
  cases spells with
  | nil => exact readPairs_closing hc true
  | @cons part m parts pairs hpart hparts =>
    rw [intercalate_comma, List.append_assoc] at hc
    simp only [intercalate_comma, List.length_append] at hbound
    have hpartBound : 2 * part.length ≤ bound := by omega
    have hpartsBound : 2 * (behind gap parts).length < bound := by omega
    have ends : EndsNumber (behind gap parts ++ '\x7d' :: rest) :=
      endsNumber_behind (endsNumber_cons.2 (by decide))
    obtain ⟨next, hnext, hrest⟩ := nextMember_first hpart hc
    obtain ⟨after, hafter, hread⟩ := readPairs_next blank hpart hpartBound ends hnext hrest
    obtain ⟨last, hpairs, hlast⟩ := readPairs_behind blank hparts hpartsBound hafter
    exact ⟨last, by rw [hread, hpairs]; rfl, hlast⟩

theorem spells_object (blank : ∀ x ∈ gap, isBlank x = true) {parts : List (List Char)}
    {members : List (String × Json)} (spells : List.Forall₂ (SpellsMember gap depth) parts members)
    (sorted : SortedByName members) :
    Spells (depth + 1) ('\x7b' :: ((',' :: gap).intercalate parts ++ ['\x7d'])) (.object members) := by
  refine spells_of_readValue (by decide) (by decide) fun bound rest hbound _ c hc hskip => ?_
  have hopen : readValue (bound + 1) (depth + 1) c = readMembers bound depth true [] c.next := by
    simp only [readValue, hskip, hc, Char.reduceEq, Char.reduceIsDigit, Bool.false_eq_true, if_false, if_true]
  have hnext := Cursor.rest_next hc
  rw [List.append_assoc, List.singleton_append] at hnext
  rw [List.length_append, List.length_singleton] at hbound
  have hpairsBound : 2 * ((',' :: gap).intercalate parts).length + 1 < bound := by omega
  obtain ⟨last, hpairs, hlast⟩ := readPairs_intercalate blank spells hpairsBound hnext
  refine ⟨last, ?_, hlast⟩
  have hmembers : members.foldl (fun entries m => Entries.insert m.1 m.2 entries) [] = members :=
    Entries.ofList_of_sortedByName sorted
  rw [hopen, readMembers_eq_map_readPairs, hpairs, Except.map, hmembers]

end Gaps

theorem read_of_spells {text : String} {j : Json} (h : Spells maxNesting text.toList j) :
    read text = .ok j := by
  have hbound : 2 * text.toList.length ≤ 2 * text.length + 2 := by
    rw [String.length_toList]
    exact Nat.le_add_right _ 2
  obtain ⟨last, hvalue, hlast⟩ :=
    h.takes _ [] hbound endsNumber_nil (.start text) (List.append_nil _).symm
  rw [read, hvalue]
  have hskip : last.skipBlanks.rest = [] := by rw [Cursor.rest_skipBlanks, hlast, List.dropWhile_nil]
  exact readEnd_eq_ok_iff.2 ⟨rfl, hskip⟩

theorem isObject_of_spells {gap : List Char} (blank : ∀ x ∈ gap, isBlank x = true) {text : String}
    {parts : List (List Char)} {pairs : List (String × Json)}
    (spells : List.Forall₂ (SpellsMember gap (maxNesting - 1)) parts pairs)
    (htext : text.toList = '\x7b' :: ((',' :: gap).intercalate parts ++ ['\x7d'])) : IsObject text pairs := by
  have hskip : (Cursor.start text).skipBlanks.rest =
      '\x7b' :: ((',' :: gap).intercalate parts ++ ['\x7d']) :=
    Cursor.rest_skipBlanks_cons htext (by decide)
  have hbound : 2 * ((',' :: gap).intercalate parts).length + 1 < 2 * text.length + 1 := by
    rw [← String.length_toList, htext, List.length_cons, List.length_append]
    omega
  obtain ⟨last, hpairs, hlast⟩ := readPairs_intercalate blank spells hbound (Cursor.rest_next hskip)
  refine ⟨by rw [hskip, List.head?_cons], last, hpairs, ?_⟩
  rw [Cursor.rest_skipBlanks, hlast, List.dropWhile_nil]

end Sigil.Json
