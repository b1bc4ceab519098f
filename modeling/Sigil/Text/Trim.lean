import Sigil.Unicode.Blank

/-!
Trimming: the part of a text between its first and its last character that is not white space.
-/

namespace Sigil.Text

def dropBlankEnd : List Char → List Char
  | [] => []
  | c :: cs =>
    match dropBlankEnd cs with
    | [] => if Unicode.isBlank c then [] else [c]
    | d :: ds => c :: d :: ds

def dropBlankStart (cs : List Char) : List Char := cs.dropWhile Unicode.isBlank

def trim (s : String) : String := String.ofList (dropBlankEnd (dropBlankStart s.toList))

def splitAtEquals : List Char → Option (List Char × List Char)
  | [] => none
  | c :: cs => if c = '=' then some ([], cs) else (splitAtEquals cs).map fun p => (c :: p.1, p.2)

theorem splitAtEquals_eq_some {cs before after : List Char} :
    splitAtEquals cs = some (before, after) ↔ cs = before ++ '=' :: after ∧ '=' ∉ before := by
  induction cs generalizing before with
  | nil => simp [splitAtEquals]
  | cons c cs ih =>
    by_cases hc : c = '='
    · rw [splitAtEquals, if_pos hc, Option.some.injEq, Prod.mk.injEq]
      constructor
      · rintro ⟨rfl, rfl⟩
        exact ⟨by rw [hc, List.nil_append], List.not_mem_nil⟩
      · rintro ⟨hcs, hbefore⟩
        cases before with
        | nil => exact ⟨rfl, (List.cons.inj hcs).2⟩
        | cons d before => exact absurd (hc ▸ (List.cons.inj hcs).1 ▸ List.mem_cons_self) hbefore
    · simp only [splitAtEquals, if_neg hc, Option.map_eq_some_iff, Prod.mk.injEq]
      constructor
      · rintro ⟨⟨b, a⟩, hs, rfl, rfl⟩
        obtain ⟨rfl, hb⟩ := ih.1 hs
        exact ⟨rfl, by simp [hb, Ne.symm hc]⟩
      · rintro ⟨hcs, hbefore⟩
        cases before with
        | nil => exact absurd (List.cons.inj hcs).1 hc
        | cons d before =>
          obtain ⟨rfl, rfl⟩ := List.cons.inj hcs
          have hb : '=' ∉ before := fun h => hbefore (List.mem_cons_of_mem _ h)
          exact ⟨(before, after), ih.2 ⟨rfl, hb⟩, rfl, rfl⟩

end Sigil.Text
