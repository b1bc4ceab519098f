import Mathlib.Tactic.SplitIfs
import Sigil.Json.Reader

/-! The members of an object as they stand in its text. Reading the text puts them in order, and of several
members of one name the last stands. -/

namespace Sigil

theorem exists_of_map_eq_ok {ε α β : Type} {f : α → β} {result : Except ε α} {b : β}
    (h : result.map f = .ok b) : ∃ a, result = .ok a ∧ f a = b := by
  cases result with
  | error e => contradiction
  | ok a => exact ⟨a, rfl, Except.ok.inj h⟩

namespace Json

def readPairs : Nat → Nat → Bool → Cursor → Except (Refusal Fault) (List (String × Json) × Cursor)
  | 0, _, _, c => c.refuse (.unfinished .object)
  | bound + 1, depth, first, c =>
    match nextMember first c with
    | .error r => .error r
    | .ok none => .ok ([], c.skipBlanks.next)
    | .ok (some c) =>
      match readString c.next with
      | .error r => .error r
      | .ok (name, c) =>
        match readColon c with
        | .error r => .error r
        | .ok c =>
          match readValue bound depth c with
          | .error r => .error r
          | .ok (value, c) => (readPairs bound depth false c).map fun p => ((name, value) :: p.1, p.2)

theorem readMembers_eq_map_readPairs (bound depth : Nat) (first : Bool) (before : List (String × Json))
    (c : Cursor) : readMembers bound depth first before c = (readPairs bound depth first c).map fun p =>
      (.object (p.1.foldl (fun entries m => Entries.insert m.1 m.2 entries) before), p.2) := by
  induction bound generalizing first before c with
  | zero => rfl
  | succ bound ih =>
    rw [readMembers, readPairs]
    cases nextMember first c with
    | error r => rfl
    | ok next =>
      cases next with
      | none => rfl
      | some c =>
        cases hname : readString c.next with
        | error r => simp only [hname, Except.map]
        | ok name =>
          cases hcolon : readColon name.2 with
          | error r => simp only [hname, hcolon, Except.map]
          | ok c =>
            cases hvalue : readValue bound depth c with
            | error r => simp only [hname, hcolon, hvalue, Except.map]
            | ok value =>
              simp only [hname, hcolon, hvalue, ih]
              cases readPairs bound depth false value.2 <;> rfl

theorem exists_array_of_readItems {bound depth : Nat} {first : Bool} {before : List Json} {c c' : Cursor}
    {j : Json} (h : readItems bound depth first before c = .ok (j, c')) : ∃ items, j = .array items := by
  induction bound generalizing first before c with
  | zero => simp [readItems, Cursor.refuse] at h
  | succ bound ih =>
    rw [readItems] at h
    cases hnext : nextItem first c with
    | error r => simp [hnext] at h
    | ok next =>
      cases next with
      | none =>
        simp only [hnext, Except.ok.injEq, Prod.mk.injEq] at h
        exact ⟨_, h.1.symm⟩
      | some c =>
        cases hvalue : readValue bound depth c with
        | error r => simp [hnext, hvalue] at h
        | ok value =>
          simp only [hnext, hvalue] at h
          exact ih h

theorem exists_object_of_readMembers {bound depth : Nat} {first : Bool} {before : List (String × Json)}
    {c c' : Cursor} {j : Json} (h : readMembers bound depth first before c = .ok (j, c')) :
    ∃ members, j = .object members := by
  rw [readMembers_eq_map_readPairs] at h
  obtain ⟨p, -, hp⟩ := exists_of_map_eq_ok h
  exact ⟨_, (Prod.ext_iff.1 hp).1.symm⟩

theorem readValue_cases {bound depth : Nat} {c last : Cursor} {j : Json}
    (h : readValue (bound + 1) depth c = .ok (j, last)) :
    (j = .null ∨ (∃ b, j = .bool b) ∨ ∃ items, j = .array items) ∨
      (∃ s, j = .string s ∧ c.skipBlanks.rest.head? = some '"' ∧
        readString c.skipBlanks.next = .ok (s, last)) ∨
      (∃ n, j = .number n ∧
        (c.skipBlanks.rest.head? = some '-' ∧ readNumber true c.skipBlanks.next = .ok (n, last) ∨
          ∃ x, x.isDigit = true ∧ c.skipBlanks.rest.head? = some x ∧
            readNumber false c.skipBlanks = .ok (n, last))) ∨
      ∃ members inner, j = .object members ∧ depth = inner + 1 ∧
        c.skipBlanks.rest.head? = some '\x7b' ∧
          readMembers bound inner true [] c.skipBlanks.next = .ok (.object members, last) := by
  simp only [readValue] at h
  generalize c.skipBlanks = c at *
  cases hrest : c.rest with
  | nil => simp [hrest, Cursor.refuse] at h
  | cons x rest =>
    simp only [hrest] at h
    rw [List.head?_cons]
    split_ifs at h with hn ht hf hminus hdigit hquote hbracket hbrace
    · obtain ⟨a, -, ha⟩ := exists_of_map_eq_ok h
      exact .inl (.inl (Prod.ext_iff.1 ha).1.symm)
    · obtain ⟨a, -, ha⟩ := exists_of_map_eq_ok h
      exact .inl (.inr (.inl ⟨true, (Prod.ext_iff.1 ha).1.symm⟩))
    · obtain ⟨a, -, ha⟩ := exists_of_map_eq_ok h
      exact .inl (.inr (.inl ⟨false, (Prod.ext_iff.1 ha).1.symm⟩))
    · obtain ⟨⟨n, last'⟩, hread, ha⟩ := exists_of_map_eq_ok h
      obtain ⟨rfl, rfl⟩ := Prod.mk.inj ha
      exact .inr (.inr (.inl ⟨n, rfl, .inl ⟨congrArg some hminus, hread⟩⟩))
    · obtain ⟨⟨n, last'⟩, hread, ha⟩ := exists_of_map_eq_ok h
      obtain ⟨rfl, rfl⟩ := Prod.mk.inj ha
      exact .inr (.inr (.inl ⟨n, rfl, .inr ⟨x, hdigit, rfl, hread⟩⟩))
    · obtain ⟨⟨s, last'⟩, hread, ha⟩ := exists_of_map_eq_ok h
      obtain ⟨rfl, rfl⟩ := Prod.mk.inj ha
      exact .inr (.inl ⟨s, rfl, congrArg some hquote, hread⟩)
    · cases depth with
      | zero => simp [Cursor.refuseNext] at h
      | succ depth => exact .inl (.inr (.inr (exists_array_of_readItems h)))
    · cases depth with
      | zero => simp [Cursor.refuseNext] at h
      | succ depth =>
        obtain ⟨members, hmembers⟩ := exists_object_of_readMembers h
        exact .inr (.inr (.inr ⟨members, depth, hmembers, rfl, congrArg some hbrace, hmembers ▸ h⟩))
    · simp [Cursor.refuseNext] at h

theorem readValue_eq_object_iff (bound depth : Nat) {c last : Cursor} {members : List (String × Json)} :
    readValue (bound + 1) (depth + 1) c = .ok (.object members, last) ↔
      c.skipBlanks.rest.head? = some '\x7b' ∧
        readMembers bound depth true [] c.skipBlanks.next = .ok (.object members, last) := by
  constructor
  · intro h
    rcases readValue_cases h with (h | ⟨_, h⟩ | ⟨_, h⟩) | ⟨_, h, -⟩ | ⟨_, h, -⟩ | ⟨_, _, hsame, hdepth, hread⟩
    case inr.inr.inr =>
      cases hsame
      cases hdepth
      exact hread
    all_goals contradiction
  · rintro ⟨hhead, hread⟩
    obtain ⟨rest, hrest⟩ := List.head?_eq_some_iff.1 hhead
    simp only [readValue, hrest, Char.reduceEq, Char.reduceIsDigit, Bool.false_eq_true, if_false, if_true, hread]

theorem readString_of_readValue {bound depth : Nat} {c last : Cursor} {s : String}
    (h : readValue (bound + 1) depth c = .ok (.string s, last)) :
    c.skipBlanks.rest.head? = some '"' ∧ readString c.skipBlanks.next = .ok (s, last) := by
  rcases readValue_cases h with (h | ⟨_, h⟩ | ⟨_, h⟩) | ⟨s', hs, hread⟩ | ⟨_, h, -⟩ | ⟨_, _, h, -⟩
  case inr.inl =>
    cases hs
    exact hread
  all_goals contradiction

theorem readNumber_of_readValue {bound depth : Nat} {c last : Cursor} {n : JsonNumber}
    (h : readValue (bound + 1) depth c = .ok (.number n, last)) :
    c.skipBlanks.rest.head? = some '-' ∧ readNumber true c.skipBlanks.next = .ok (n, last) ∨
      ∃ x, x.isDigit = true ∧ c.skipBlanks.rest.head? = some x ∧
        readNumber false c.skipBlanks = .ok (n, last) := by
  rcases readValue_cases h with (h | ⟨_, h⟩ | ⟨_, h⟩) | ⟨_, h, -⟩ | ⟨n', hn, hread⟩ | ⟨_, _, h, -⟩
  case inr.inr.inl =>
    cases hn
    exact hread
  all_goals contradiction

theorem readPairs_cases {bound depth : Nat} {first : Bool} {c last : Cursor} {pairs : List (String × Json)}
    (h : readPairs bound depth first c = .ok (pairs, last)) :
    (pairs = [] ∧ nextMember first c = .ok none ∧ last = c.skipBlanks.next) ∨
      ∃ bound' m behind next named colon after, pairs = m :: behind ∧ nextMember first c = .ok (some next) ∧
        readString next.next = .ok (m.1, named) ∧ readColon named = .ok colon ∧
        readValue bound' depth colon = .ok (m.2, after) ∧
        readPairs bound' depth false after = .ok (behind, last) := by
  cases bound with
  | zero => simp [readPairs, Cursor.refuse] at h
  | succ bound =>
    rw [readPairs] at h
    rcases hnext : nextMember first c with r | _ | next
    · simp [hnext] at h
    · simp only [hnext, Except.ok.injEq, Prod.mk.injEq] at h
      exact .inl ⟨h.1.symm, rfl, h.2.symm⟩
    · rcases hname : readString next.next with r | ⟨name, named⟩
      · simp [hnext, hname] at h
      · rcases hcolon : readColon named with r | colon
        · simp [hnext, hname, hcolon] at h
        · rcases hvalue : readValue bound depth colon with r | ⟨value, after⟩
          · simp [hnext, hname, hcolon, hvalue] at h
          · simp only [hnext, hname, hcolon, hvalue] at h
            obtain ⟨⟨behind, last'⟩, hbehind, hsame⟩ := exists_of_map_eq_ok h
            obtain ⟨rfl, rfl⟩ := Prod.mk.inj hsame
            exact .inr ⟨bound, (name, value), behind, next, named, colon, after, rfl, rfl, hname, hcolon,
              hvalue, hbehind⟩

/-- The text is an object with these members, in the order of the text. -/
def IsObject (text : String) (pairs : List (String × Json)) : Prop :=
  let c := (Cursor.start text).skipBlanks
  c.rest.head? = some '\x7b' ∧ ∃ last,
    readPairs (2 * text.length + 1) (maxNesting - 1) true c.next = .ok (pairs, last) ∧
      last.skipBlanks.rest = []

theorem readEnd_eq_ok_iff {α : Type} {value result : α} {c : Cursor} :
    readEnd value c = .ok result ↔ value = result ∧ c.skipBlanks.rest = [] := by
  simp only [readEnd, List.isEmpty_iff]
  split
  · next h => simp [h]
  · next h => simp [h, Cursor.refuseNext]

theorem read_eq_object_iff {text : String} {members : List (String × Json)} :
    read text = .ok (.object members) ↔ ∃ pairs, IsObject text pairs ∧ members = Entries.ofList pairs := by
  have hread : read text = .ok (.object members) ↔ ∃ last,
      readValue (2 * text.length + 2) maxNesting (.start text) = .ok (.object members, last) ∧
        last.skipBlanks.rest = [] := by
    rw [read]
    cases readValue (2 * text.length + 2) maxNesting (.start text) with
    | error r => simp
    | ok p =>
      simp only [readEnd_eq_ok_iff, Except.ok.injEq, Prod.ext_iff]
      exact ⟨fun h => ⟨p.2, ⟨h.1, rfl⟩, h.2⟩, fun ⟨_, ⟨hvalue, hlast⟩, hend⟩ => ⟨hvalue, hlast ▸ hend⟩⟩
  rw [hread]
  constructor
  · rintro ⟨last, hvalue, hend⟩
    obtain ⟨hbrace, hmembers⟩ := (readValue_eq_object_iff (2 * text.length + 1) (maxNesting - 1)).1 hvalue
    rw [readMembers_eq_map_readPairs] at hmembers
    obtain ⟨⟨pairs, after⟩, hpairs, hsame⟩ := exists_of_map_eq_ok hmembers
    simp only [Prod.mk.injEq, object.injEq] at hsame
    exact ⟨pairs, ⟨hbrace, after, hpairs, hsame.2 ▸ hend⟩, hsame.1.symm⟩
  · rintro ⟨pairs, ⟨hbrace, last, hpairs, hend⟩, rfl⟩
    refine ⟨last, (readValue_eq_object_iff (2 * text.length + 1) (maxNesting - 1)).2 ⟨hbrace, ?_⟩, hend⟩
    rw [readMembers_eq_map_readPairs, hpairs]
    rfl

end Json
end Sigil
