import Mathlib.Data.List.TakeWhile
import Mathlib.Data.Nat.Digits.Defs
import Sigil.Json.Cursor

/-! The parts of a JSON text that hold no other part, as they are read: each takes its own characters off the
front of the text, and gives what they stand for. -/

namespace Sigil.Json

/-- From a text that begins with these characters the reading takes them, and gives this. -/
def Takes {α : Type} (read : Reading α) (cs rest : List Char) (a : α) : Prop :=
  ∀ c : Cursor, c.rest = cs ++ rest → ∃ last, read c = .ok (a, last) ∧ last.rest = rest

theorem Takes.map {α β : Type} {read : Reading α} {cs rest : List Char} {a : α} (h : Takes read cs rest a)
    (f : α → β) : Takes (fun c => (read c).map fun p => (f p.1, p.2)) cs rest (f a) := by
  intro c hc
  obtain ⟨last, hread, hlast⟩ := h c hc
  exact ⟨last, by simp only [hread, Except.map], hlast⟩

namespace Cursor

theorem rest_next {c : Cursor} {x : Char} {rest : List Char} (h : c.rest = x :: rest) :
    c.next.rest = rest := by
  simp only [next, h]

theorem rest_skipBlanks (c : Cursor) : c.skipBlanks.rest = c.rest.dropWhile isBlank := by
  obtain ⟨cs, bytes⟩ := c
  change (Json.skipBlanks bytes cs).rest = cs.dropWhile isBlank
  induction cs generalizing bytes with
  | nil => rfl
  | cons x cs ih =>
    rw [Json.skipBlanks]
    cases hx : isBlank x with
    | true => rw [if_pos rfl, ih, List.dropWhile_cons_of_pos hx]
    | false => rw [if_neg Bool.false_ne_true, List.dropWhile_cons_of_neg (by simp [hx])]

theorem rest_skipBlanks_append {c : Cursor} {gap rest : List Char} (h : c.rest = gap ++ rest)
    (blank : ∀ x ∈ gap, isBlank x = true) (last : ∀ x ∈ rest.head?, isBlank x = false) :
    c.skipBlanks.rest = rest := by
  rw [rest_skipBlanks, h, List.dropWhile_append_of_pos blank]
  cases rest with
  | nil => rfl
  | cons x rest => exact List.dropWhile_cons_of_neg (by simp [last x rfl])

theorem rest_skipBlanks_cons {c : Cursor} {x : Char} {rest : List Char} (h : c.rest = x :: rest)
    (solid : isBlank x = false) : c.skipBlanks.rest = x :: rest := by
  rw [rest_skipBlanks, h, List.dropWhile_cons_of_neg (by simp [solid])]

theorem skipBlanks_skipBlanks (c : Cursor) : c.skipBlanks.skipBlanks = c.skipBlanks := by
  obtain ⟨cs, bytes⟩ := c
  change (Json.skipBlanks bytes cs).skipBlanks = Json.skipBlanks bytes cs
  induction cs generalizing bytes with
  | nil => rfl
  | cons x cs ih =>
    rw [Json.skipBlanks]
    cases hx : isBlank x with
    | true => exact ih (bytes + 1)
    | false =>
      simp only [Bool.false_eq_true, if_false, skipBlanks, Json.skipBlanks, hx]

end Cursor

theorem takes_readName {α : Type} (name rest : List Char) (value : α) :
    Takes (fun c => c.readName name value) name rest value := by
  rintro ⟨_, bytes⟩ rfl
  have hname : ∃ last, Json.readName bytes name (name ++ rest) = .ok last ∧ last.rest = rest := by
    induction name generalizing bytes with
    | nil => exact ⟨⟨rest, bytes⟩, rfl, rfl⟩
    | cons x name ih => simpa only [List.cons_append, Json.readName, if_true] using ih (bytes + 1)
  obtain ⟨last, hread, hlast⟩ := hname
  exact ⟨last, by simp only [Cursor.readName, hread, Except.map], hlast⟩

def Unescaped (x : Char) : Prop := x ≠ '"' ∧ x ≠ '\\' ∧ 0x20 ≤ x.toNat

instance : DecidablePred Unescaped := fun x =>
  inferInstanceAs (Decidable (x ≠ '"' ∧ x ≠ '\\' ∧ 0x20 ≤ x.toNat))

def Verbatim (s : String) : Prop := ∀ x ∈ s.toList, Unescaped x

instance : DecidablePred Verbatim := fun s => List.decidableBAll Unescaped s.toList

theorem readCharacters_unescaped {cs rest : List Char} (unescaped : ∀ x ∈ cs, Unescaped x) {bound : Nat}
    (hbound : cs.length < bound) (before : List Char) {c : Cursor} (hc : c.rest = cs ++ '"' :: rest) :
    ∃ last, readCharacters bound before c = .ok (String.ofList (before.reverse ++ cs), last) ∧
      last.rest = rest := by
  induction cs generalizing bound before c with
  | nil =>
    obtain ⟨bound, rfl⟩ := Nat.exists_eq_add_of_lt hbound
    refine ⟨c.next, ?_, Cursor.rest_next hc⟩
    simp only [List.append_nil, readCharacters, hc, List.nil_append, if_true]
  | cons x cs ih =>
    cases bound with
    | zero => contradiction
    | succ bound =>
      obtain ⟨⟨hquote, hbackslash, hcontrol⟩, hrest⟩ := List.forall_mem_cons.1 unescaped
      obtain ⟨last, hread, hlast⟩ :=
        ih hrest (Nat.lt_of_succ_lt_succ hbound) (x :: before) (Cursor.rest_next hc)
      refine ⟨last, ?_, hlast⟩
      simp only [readCharacters, hc, List.cons_append, hquote, hbackslash, Nat.not_lt.2 hcontrol, if_false,
        hread, List.reverse_cons, List.append_assoc, List.nil_append]

theorem takes_readString {s : String} (verbatim : Verbatim s) (rest : List Char) :
    Takes readString (s.toList ++ ['"']) rest s := by
  intro c hc
  rw [List.append_assoc, List.singleton_append] at hc
  have hbound : s.toList.length < c.rest.length + 1 := by
    rw [hc, List.length_append]
    exact Nat.lt_succ_of_le (Nat.le_add_right _ _)
  obtain ⟨last, hread, hlast⟩ := readCharacters_unescaped verbatim hbound [] hc
  exact ⟨last, by simpa [readString] using hread, hlast⟩

def EndsNumber (rest : List Char) : Prop :=
  ∀ x ∈ rest.head?, x.isDigit = false ∧ x ≠ '.' ∧ x ≠ 'e' ∧ x ≠ 'E'

theorem endsNumber_nil : EndsNumber [] := by simp [EndsNumber]

theorem endsNumber_cons {x : Char} {rest : List Char} :
    EndsNumber (x :: rest) ↔ x.isDigit = false ∧ x ≠ '.' ∧ x ≠ 'e' ∧ x ≠ 'E' := by
  simp [EndsNumber]

theorem ofDigitChars_le_append (n : Nat) (cs : List Char) : n ≤ Nat.ofDigitChars 10 cs n := by
  rw [Nat.ofDigitChars_eq_ofDigitChars_zero]
  have hpow : 0 < 10 ^ cs.length := Nat.pow_pos (by decide)
  exact (Nat.le_mul_of_pos_left n hpow).trans (Nat.le_add_right _ _)

theorem takeDigits_append {cs rest : List Char} (digits : ∀ x ∈ cs, x.isDigit = true)
    (ends : EndsNumber rest) (n count : Nat) (fits : Nat.ofDigitChars 10 cs n ≤ maxSignificand) :
    takeDigits n count (cs ++ rest) = ⟨Nat.ofDigitChars 10 cs n, count + cs.length, rest⟩ := by
  induction cs generalizing n count with
  | nil =>
    cases rest with
    | nil => rfl
    | cons x rest =>
      have hx : x.isDigit = false := (endsNumber_cons.1 ends).1
      simp [takeDigits, hx, Nat.ofDigitChars]
  | cons x cs ih =>
    obtain ⟨hx, hcs⟩ := List.forall_mem_cons.1 digits
    rw [Nat.ofDigitChars_cons] at *
    have hfits : 10 * n + (x.toNat - 48) ≤ maxSignificand := (ofDigitChars_le_append _ cs).trans fits
    rw [List.cons_append, takeDigits]
    simp only [hx, hfits, decide_true, Bool.and_self, if_true]
    refine (ih hcs _ _ fits).trans ?_
    rw [List.length_cons, Nat.add_right_comm, Nat.add_assoc]

theorem skipDigits_of_endsNumber {rest : List Char} (ends : EndsNumber rest) (count : Nat) :
    skipDigits count rest = (count, rest) := by
  cases rest with
  | nil => rfl
  | cons x rest => simp [skipDigits, (endsNumber_cons.1 ends).1]

theorem exists_toDigits_eq_cons {n : Nat} (hn : n ≠ 0) : ∃ x cs, Nat.toDigits 10 n = x :: cs ∧ x ≠ '0' := by
  induction n using Nat.strongRecOn with
  | ind n ih =>
    rw [Nat.toDigits_eq_if (by decide)]
    split
    · next hlt =>
      have hdigit : ∀ m < 10, m ≠ 0 → Nat.digitChar m ≠ '0' := by decide
      exact ⟨n.digitChar, [], rfl, hdigit n hlt hn⟩
    · next hle =>
      obtain ⟨x, cs, hdigits, hx⟩ := ih (n / 10) (by omega) (by omega)
      exact ⟨x, cs ++ [(n % 10).digitChar], by rw [hdigits, List.cons_append], hx⟩

theorem readNumberEnd_of_endsNumber {c : Cursor} (ends : EndsNumber c.rest) (negative : Bool)
    (significand : Nat) :
    readNumberEnd negative significand c = .ok (integer negative significand, c) := by
  unfold readNumberEnd
  cases hrest : c.rest with
  | nil => rfl
  | cons x rest =>
    obtain ⟨-, hpoint, he, hE⟩ := endsNumber_cons.1 (hrest ▸ ends)
    simp [hpoint, he, hE]

theorem takes_readNumber (negative : Bool) {n : Nat} (fits : n ≤ maxSignificand) {rest : List Char}
    (ends : EndsNumber rest) :
    Takes (readNumber negative) (Nat.toDigits 10 n) rest (integer negative n) := by
  intro c hc
  by_cases hn : n = 0
  · subst hn
    rw [Nat.toDigits_zero, List.singleton_append] at hc
    have hnext : c.next.rest = rest := Cursor.rest_next hc
    refine ⟨c.next, ?_, hnext⟩
    simp only [readNumber, hc]
    cases rest with
    | nil => exact readNumberEnd_of_endsNumber (hnext ▸ ends) negative 0
    | cons x rest =>
      simp only [(endsNumber_cons.1 ends).1, Bool.false_eq_true, if_false]
      exact readNumberEnd_of_endsNumber (hnext ▸ ends) negative 0
  · have hdigits : ∀ x ∈ Nat.toDigits 10 n, x.isDigit = true := fun x hx =>
      Nat.isDigit_of_mem_toDigits (by decide) (by decide) hx
    have htaken := takeDigits_append hdigits ends 0 0 (by rwa [Nat.ofDigitChars_ten_toDigits])
    rw [Nat.ofDigitChars_ten_toDigits] at htaken
    obtain ⟨x, cs, hcons, hx⟩ := exists_toDigits_eq_cons hn
    have hdigit : x.isDigit = true := hdigits x (hcons ▸ List.mem_cons_self)
    refine ⟨⟨rest, c.bytes + (0 + (Nat.toDigits 10 n).length) + 0⟩, ?_, rfl⟩
    rw [← hc] at htaken
    rw [hcons, List.cons_append] at hc
    unfold readNumber
    split
    · next hnil => simp [hc] at hnil
    · next rest' hzero =>
      rw [hc, List.cons.injEq] at hzero
      exact absurd hzero.1 hx
    · next d rest' hnot hd =>
      rw [hc, List.cons.injEq] at hd
      obtain ⟨rfl, -⟩ := hd
      simp only [hdigit, if_true, htaken, skipDigits_of_endsNumber ends]
      exact readNumberEnd_of_endsNumber ends negative n

end Sigil.Json
